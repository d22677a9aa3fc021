import LinkControl.Server.Local

/-!
# Link server — what a failed request leaves

`Unchanged s s'` compares what a request is about: the statuses and client lists of all
devices, and the device lists of all clients (`State.devicesOf`: a client that is not
registered lists nothing). A request that returns -1 leaves all of this unchanged, except
for the two requests that do several things in sequence (`Torn`):

* DOWN takes the client off the device before it hangs up the link;
* UP dials before it notes the client at the device, and notes the client at the device
  before the device at the client. When it dials a device that is hanging up, it first
  kills the old connection, which clears the device from the lists of all clients.

`clean_connect_iff` and `clean_disconnect_iff` show that these are all the half-made
changes there are.
-/

namespace LinkControl

open ReturnCode

variable {w : World} {cfg : Config} {c : CliPtr} {d : DevPtr} {s s' s'' : State}

/-- The devices a client is connected to. -/
def State.devicesOf (s : State) (c : CliPtr) : List DevPtr :=
  if c ∈ s.gClients then (s.cli c).devicesConnected else []

/-- The same statuses, and the same lists. -/
structure Unchanged (s s' : State) : Prop where
  status : ∀ d ∈ s.gDevices, (s'.dev d).status = (s.dev d).status
  clients : ∀ d ∈ s.gDevices, (s'.dev d).clientsConnected = (s.dev d).clientsConnected
  devices : ∀ c, s'.devicesOf c = s.devicesOf c

/-- UP kills the old connection first, and the command returns 0. -/
def Kills (w : World) (d : DevPtr) (s : State) : Prop :=
  (s.dev d).status = .disconnecting ∧ launchResult w s = 0

/-- UP for a device without clients gets as far as a dial that can be run. -/
def Dials (w : World) (d : DevPtr) (s : State) : Prop :=
  (s.dev d).status ≠ .up ∧ 0 ≤ launchResult w s ∧
    ((s.dev d).status = .disconnecting →
      0 ≤ launchResult w { s with commands := s.commands + 1 })

/-- The call fails half way. -/
def Torn (w : World) (o : Op) (s : State) : Prop :=
  match o with
  | .disconnect c d => (s.dev d).clientsConnected = [c] ∧
      ((s.dev d).status = .down ∨ launchResult w s < 0)
  | .connect c d =>
    if (s.dev d).clientsConnected = [] then
      (Dials w d s ∧ w.malloc s.mallocs = none ∧ (s.dev d).status ≠ .connecting) ∨
      (Dials w d s ∧ (w.malloc s.mallocs).isSome ∧ w.malloc (s.mallocs + 1) = none ∧
        (d ∉ (s.cli c).devicesConnected ∨ Kills w d s)) ∨
      (Kills w d s ∧ ¬ Dials w d s ∧ ∃ c' ∈ s.gClients, d ∈ (s.cli c').devicesConnected)
    else c ∉ (s.dev d).clientsConnected ∧ d ∉ (s.cli c).devicesConnected ∧
      (w.malloc s.mallocs).isSome ∧ w.malloc (s.mallocs + 1) = none
  | _ => False

instance (w : World) (d : DevPtr) (s : State) : Decidable (Kills w d s) :=
  inferInstanceAs (Decidable (_ ∧ _))

instance (w : World) (d : DevPtr) (s : State) : Decidable (Dials w d s) :=
  inferInstanceAs (Decidable (_ ∧ _))

instance (w : World) (s : State) : ∀ o, Decidable (Torn w o s)
  | .disconnect _ _ => inferInstanceAs (Decidable (_ ∧ _))
  | .connect _ _ => inferInstanceAs (Decidable (ite _ _ _))
  | .expire _ _ | .isUp _ | .isDown _ | .forceDown _ | .timeout _ => isFalse id

namespace Unchanged

theorem refl (s : State) : Unchanged s s :=
  ⟨fun _ _ => rfl, fun _ _ => rfl, fun _ => rfl⟩

theorem trans (h : Unchanged s s') (hDevices : s'.gDevices = s.gDevices)
    (h' : Unchanged s' s'') : Unchanged s s'' where
  status d hd := (h'.status d (hDevices ▸ hd)).trans (h.status d hd)
  clients d hd := (h'.clients d (hDevices ▸ hd)).trans (h.clients d hd)
  devices c := (h'.devices c).trans (h.devices c)

/-- Where nothing changed at first, a change is a change since then. -/
theorem congr_left (h : Unchanged s s') (hDevices : s'.gDevices = s.gDevices) :
    Unchanged s s'' ↔ Unchanged s' s'' := by
  refine ⟨fun h'' => ?_, fun h'' => h.trans hDevices h''⟩
  exact ⟨fun d hd => (h''.status d (hDevices ▸ hd)).trans (h.status d (hDevices ▸ hd)).symm,
    fun d hd => (h''.clients d (hDevices ▸ hd)).trans (h.clients d (hDevices ▸ hd)).symm,
    fun c => (h''.devices c).trans (h.devices c).symm⟩

/-- A change confined to one device that leaves its status and all lists as they
are. -/
theorem of_touched (ht : Touched d s s') (hStatus : (s'.dev d).status = (s.dev d).status)
    (hClients : (s'.dev d).clientsConnected = (s.dev d).clientsConnected)
    (hDevices : ∀ c ∈ s.gClients, (s'.cli c).devicesConnected = (s.cli c).devicesConnected) :
    Unchanged s s' := by
  refine ⟨fun d' _ => ?_, fun d' _ => ?_, fun c => ?_⟩
  · rcases eq_or_ne d' d with rfl | hOther
    · exact hStatus
    · rw [ht.other d' hOther]
  · rcases eq_or_ne d' d with rfl | hOther
    · exact hClients
    · rw [ht.other d' hOther]
  · unfold State.devicesOf
    rw [ht.gClients]
    split
    · exact hDevices c ‹_›
    · rfl

/-- What a listed client lists. -/
theorem listed (h : Unchanged s s') (hClients : s'.gClients = s.gClients) (hc : c ∈ s.gClients) :
    (s'.cli c).devicesConnected = (s.cli c).devicesConnected := by
  have hDevices := h.devices c
  unfold State.devicesOf at hDevices
  rwa [if_pos (hClients ▸ hc), if_pos hc] at hDevices

end Unchanged

theorem Quiet.unchanged (h : Quiet s s') : Unchanged s s' where
  status d _ := by rw [h.dev]
  clients d _ := by rw [h.dev]
  devices c := by
    unfold State.devicesOf
    rw [h.gClients]
    split
    · exact h.devices c ‹_›
    · rfl

/-- A client that joins lists nothing. -/
theorem Joined.unchanged (h : Joined c s s') : Unchanged s s' where
  status d _ := by rw [h.dev]
  clients d _ := by rw [h.dev]
  devices c' := by
    unfold State.devicesOf
    rw [h.gClients]
    by_cases hOld : c' ∈ s.gClients
    · rw [if_pos (List.mem_append_left _ hOld), if_pos hOld, h.old c' hOld]
    · rw [if_neg hOld]
      split
      · rename_i hNew
        obtain rfl : c' = c := by simpa [hOld] using hNew
        exact h.devices
      · rfl

/-- A force-down command that does not return 0 changes no list. -/
theorem unchanged_forcedDown (h : launchResult w s ≠ 0) : Unchanged s (forcedDown w d s) := by
  refine .of_touched (touched_forcedDown w d s) (by simp) ?_ fun c _ => ?_
  · rw [forcedDown_clients, if_neg h]
  · rw [forcedDown, if_neg h]
    rfl

/-- Taking a device down is atomic: the lists are cleared only when it worked. -/
theorem unchanged_alterToDown (h : (alterToDown w d s).1 < 0) :
    Unchanged s (alterToDown w d s).2 := by
  rcases alterToDown_cases w d s with ⟨-, hEq⟩ | ⟨-, hLaunch, hEq⟩ | ⟨-, -, hEq⟩ <;>
    rw [hEq] at h ⊢
  · exact absurd h (by simp)
  · exact unchanged_forcedDown hLaunch.ne
  · exact absurd h (by simp)

-- ---------------------------------------------------------------------------
-- DOWN
-- ---------------------------------------------------------------------------

/-- A failed disconnection has taken the client off the device. -/
theorem clean_disconnect_iff (hd : d ∈ s.gDevices) :
    ((disconnectClientFromDevice w cfg c d s).1 < 0 →
      Unchanged s (disconnectClientFromDevice w cfg c d s).2) ↔
    ¬ Torn w (.disconnect c d) s := by
  have hGone : ∀ {s'}, Touched d (s.setClientsConnected d []) s' →
      (s.dev d).clientsConnected = [c] → ¬ Unchanged s s' := by
    intro s' ht hLast h
    have hNil := List.eq_nil_of_sublist_nil (by simpa using ht.clients)
    rw [h.clients d hd, hLast] at hNil
    exact absurd hNil (by simp)
  rcases disconnectClientFromDevice_cases w cfg c d s with ⟨hNot, hEq⟩ | ⟨-, hMore, hEq⟩ |
    ⟨hLast, hStatus, hEq⟩ | ⟨hLast, -, hLaunch, hEq⟩ | ⟨hLast, hStatus, hLaunch, hEq⟩ |
    ⟨hLast, hStatus, hLaunch, hEq⟩ <;> rw [hEq]
  · refine iff_of_true (fun h => absurd h (by simp)) ?_
    intro hTorn
    obtain ⟨hLast, -⟩ := hTorn
    simp [hLast] at hNot
  · exact iff_of_true (fun h => absurd h (by simp)) fun h => hMore h.1
  · refine iff_of_false (fun h => ?_) fun h => h ⟨hLast, Or.inl hStatus⟩
    exact hGone (touched_setErrno d _ _) hLast (h (by simp))
  · refine iff_of_false (fun h => ?_) fun h => h ⟨hLast, Or.inr hLaunch⟩
    exact hGone (touched_hungUp w d _) hLast (h (by simp))
  · refine iff_of_true (fun h => absurd h (by simp)) ?_
    intro hTorn
    rcases hTorn with ⟨-, hDown | hFail⟩
    · simp [hStatus] at hDown
    · omega
  · refine iff_of_true (fun h => absurd h (by simp)) ?_
    intro hTorn
    rcases hTorn with ⟨-, hDown | hFail⟩
    · rcases hStatus with hStatus | hStatus <;> simp [hStatus] at hDown
    · omega

-- ---------------------------------------------------------------------------
-- UP
-- ---------------------------------------------------------------------------

/-- Noting a client and a device at each other fails cleanly when the first cell is
missing, and half way when only the second one is. -/
theorem noteClient_outcomes (w : World) (h : WellFormed s)
    (hc : c ∈ s.gClients) (hd : d ∈ s.gDevices) :
    ((noteClient w c d s).1 < 0 ∧ Unchanged s (noteClient w c d s).2 ∧
      (c ∉ (s.dev d).clientsConnected → w.malloc s.mallocs = none)) ∨
    ((noteClient w c d s).1 < 0 ∧
      ((noteClient w c d s).2.dev d).clientsConnected = (s.dev d).clientsConnected ++ [c] ∧
      c ∉ (s.dev d).clientsConnected ∧ d ∉ (s.cli c).devicesConnected ∧
      (w.malloc s.mallocs).isSome ∧ w.malloc (s.mallocs + 1) = none) ∨
    (0 ≤ (noteClient w c d s).1 ∧ (c ∉ (s.dev d).clientsConnected → (w.malloc s.mallocs).isSome ∧
      (d ∈ (s.cli c).devicesConnected ∨ (w.malloc (s.mallocs + 1)).isSome))) := by
  rcases h.noteClient_cases hc hd w with ⟨hMem, hEq⟩ | ⟨-, hNone, hEq⟩ | ⟨hNew, hSome, hEq⟩ <;>
    rw [hEq]
  · rcases (h.quiet (quiet_setErrno s .ealready)).noteDevice_cases hc hd w with ⟨-, hEq'⟩ |
      ⟨-, -, hEq'⟩ | ⟨-, -, hEq'⟩ <;> rw [hEq']
    · exact Or.inr (Or.inr ⟨le_rfl, fun hNot => absurd hMem hNot⟩)
    · exact Or.inl ⟨by simp, ⟨fun _ _ => rfl, fun _ _ => rfl, fun _ => rfl⟩,
        fun hNot => absurd hMem hNot⟩
    · exact Or.inr (Or.inr ⟨le_rfl, fun hNot => absurd hMem hNot⟩)
  · exact Or.inl ⟨by simp, ⟨fun _ _ => rfl, fun _ _ => rfl, fun _ => rfl⟩, fun _ => hNone⟩
  · have hNoted := (h.quiet (quiet_counters s (s.mallocs + 1) .enodev)).noteClient hc hNew
    rcases hNoted.noteDevice_cases hc hd w with ⟨hHas, hEq'⟩ | ⟨hNot, hNone, hEq'⟩ |
      ⟨-, hSome', hEq'⟩ <;> rw [hEq']
    · exact Or.inr (Or.inr ⟨le_rfl, fun _ => ⟨hSome, Or.inl hHas⟩⟩)
    · exact Or.inr (Or.inl ⟨by simp, by simp, hNew, hNot, hSome, hNone⟩)
    · exact Or.inr (Or.inr ⟨le_rfl, fun _ => ⟨hSome, Or.inr hSome'⟩⟩)

/-- A client that joins others at a device is torn between the lists when there is memory
for the first cell only. -/
theorem clean_noteClient_iff (h : WellFormed s) (hc : c ∈ s.gClients) (hd : d ∈ s.gDevices) :
    ((noteClient w c d s).1 < 0 → Unchanged s (noteClient w c d s).2) ↔
    ¬ (c ∉ (s.dev d).clientsConnected ∧ d ∉ (s.cli c).devicesConnected ∧
      (w.malloc s.mallocs).isSome ∧ w.malloc (s.mallocs + 1) = none) := by
  rcases noteClient_outcomes w h hc hd with ⟨-, hSame, hNone⟩ | ⟨hRet, hClients, hTorn⟩ |
    ⟨hRet, hSome⟩
  · refine iff_of_true (fun _ => hSame) ?_
    intro hTorn
    obtain ⟨hNew, -, hSome, -⟩ := hTorn
    simp [hNone hNew] at hSome
  · refine iff_of_false (fun hClean => ?_) fun hNot => hNot hTorn
    have hSame := (hClean hRet).clients d hd
    rw [hClients] at hSame
    simp at hSame
  · refine iff_of_true (fun hFail => absurd hRet (Int.not_le.mpr hFail)) ?_
    intro hTorn
    obtain ⟨hNew, hNot, -, hNone⟩ := hTorn
    rcases (hSome hNew).2 with hHas | hHas
    · exact hNot hHas
    · simp [hNone] at hHas

/-- The lists of the clients on the way to a dial. -/
theorem readied_devices (h : WellFormed s) (hc : c ∈ s.gClients) (n : Int) :
    ((readied w cfg d (s.setRetries d n)).cli c).devicesConnected =
      if Kills w d s then (s.cli c).devicesConnected.erase d
      else (s.cli c).devicesConnected := by
  rw [readied_cli w cfg d (s.setRetries d n) h.clients_nodup hc]
  by_cases hKills : Kills w d s
  · rw [if_pos hKills, if_pos (by simpa [Kills] using hKills)]
    rfl
  · rw [if_neg hKills, if_neg (by simpa [Kills] using hKills)]
    rfl

theorem touched_reset (w : World) (cfg : Config) (d : DevPtr) (s : State) (n : Int) :
    Touched d s (readied w cfg d (s.setRetries d n)) :=
  (touched_setRetries d s n).trans (touched_readied w cfg d _)

/-- A dial that could not be run changes nothing, unless the old connection was killed
on the way and a client still listed the device. -/
theorem clean_undialled_iff (w : World) (cfg : Config) (h : WellFormed s)
    (hFree : (s.dev d).clientsConnected = []) (n : Int) :
    Unchanged s (undialled w d (readied w cfg d (s.setRetries d n))) ↔
      ¬ (Kills w d s ∧ ∃ c' ∈ s.gClients, d ∈ (s.cli c').devicesConnected) := by
  set s₁ := readied w cfg d (s.setRetries d n) with hs₁
  have ht : Touched d s (undialled w d s₁) :=
    (touched_reset w cfg d s n).trans (touched_undialled w d s₁)
  have hClients : ((undialled w d s₁).dev d).clientsConnected = (s.dev d).clientsConnected := by
    rw [hFree]
    exact List.eq_nil_of_sublist_nil (hFree ▸ ht.clients)
  constructor
  · intro hSame hListed
    obtain ⟨hKills, c', hc', hMem⟩ := hListed
    have hDevices := hSame.listed ht.gClients hc'
    rw [undialled_cli, hs₁, readied_devices h hc', if_pos hKills] at hDevices
    rw [← hDevices] at hMem
    exact (h.devicesNodup c' hc').not_mem_erase hMem
  · intro hNot
    refine .of_touched ht (by simp [hs₁]) hClients fun c hc => ?_
    rw [undialled_cli, hs₁, readied_devices h hc]
    split
    · rename_i hKills
      exact List.erase_of_not_mem fun hMem => hNot ⟨hKills, c, hc, hMem⟩
    · rfl

/-- After a dial, the status has changed unless the device was connecting, and the lists
are filled in two steps. -/
theorem clean_dialled_iff (h : WellFormed s) (hc : c ∈ s.gClients) (hd : d ∈ s.gDevices)
    (hFree : (s.dev d).clientsConnected = []) (n : Int) :
    ((noteClient w c d (dialled w d (readied w cfg d (s.setRetries d n)))).1 < 0 →
      Unchanged s (noteClient w c d (dialled w d (readied w cfg d (s.setRetries d n)))).2) ↔
    ¬ ((w.malloc s.mallocs = none ∧ (s.dev d).status ≠ .connecting) ∨
      ((w.malloc s.mallocs).isSome ∧ w.malloc (s.mallocs + 1) = none ∧
        (d ∉ (s.cli c).devicesConnected ∨ Kills w d s))) := by
  set s₁ := readied w cfg d (s.setRetries d n) with hs₁
  have ht : Touched d s (dialled w d s₁) :=
    (touched_reset w cfg d s n).trans (touched_dialled w d s₁)
  have hNil : ((dialled w d s₁).dev d).clientsConnected = [] :=
    List.eq_nil_of_sublist_nil (hFree ▸ ht.clients)
  have hNew : c ∉ ((dialled w d s₁).dev d).clientsConnected := by
    rw [hNil]
    exact List.not_mem_nil
  have hHas : d ∈ ((dialled w d s₁).cli c).devicesConnected ↔
      ¬ (d ∉ (s.cli c).devicesConnected ∨ Kills w d s) := by
    rw [dialled_cli, hs₁, readied_devices h hc]
    split
    · rename_i hKills
      simp [hKills, (h.devicesNodup c hc).not_mem_erase]
    · rename_i hKills
      simp [hKills]
  rcases noteClient_outcomes w (h.touched ht) (ht.gClients ▸ hc) (ht.gDevices ▸ hd) with
    ⟨hRet, hSame, hNone⟩ | ⟨hRet, hClients, -, hNot, hSome, hNone⟩ | ⟨hRet, hSome⟩
  · rw [ht.mallocs] at hNone
    by_cases hStatus : (s.dev d).status = .connecting
    · refine iff_of_true (fun _ => ?_) (by simp [hNone hNew, hStatus])
      refine Unchanged.trans ?_ ht.gDevices hSame
      refine .of_touched ht (by simp [hStatus]) (hNil.trans hFree.symm) fun c hc => ?_
      rw [dialled_cli, hs₁, readied_devices h hc, if_neg (by simp [Kills, hStatus])]
    · refine iff_of_false (fun hClean => ?_) (by simp [hNone hNew, hStatus])
      have hKept := (hSame.status d (ht.gDevices ▸ hd)).symm.trans ((hClean hRet).status d hd)
      rw [dialled_status] at hKept
      exact hStatus hKept.symm
  · rw [ht.mallocs] at hSome hNone
    refine iff_of_false (fun hClean => ?_) fun hClean => ?_
    · have hKept := (hClean hRet).clients d hd
      rw [hClients, hFree] at hKept
      simp at hKept
    · refine hClean (Or.inr ⟨hSome, hNone, ?_⟩)
      by_contra hNeither
      exact hNot (hHas.mpr hNeither)
  · rw [ht.mallocs] at hSome
    obtain ⟨hFirst, hSecond⟩ := hSome hNew
    refine iff_of_true (fun hFail => absurd hRet (Int.not_le.mpr hFail)) ?_
    intro hTorn
    rcases hTorn with ⟨hNone, -⟩ | ⟨-, hNone, hMust⟩
    · simp [hNone] at hFirst
    · rcases hSecond with hSecond | hSecond
      · exact hHas.mp hSecond hMust
      · simp [hNone] at hSecond

/-- A request for a link fails half way in the ways of `Torn`, and in no other. -/
theorem clean_connect_iff (hRetries : 0 ≤ cfg.gRetries) (h : WellFormed s)
    (hc : c ∈ s.gClients) (hd : d ∈ s.gDevices) :
    ((connectClientToDevice w cfg c d s).1 < 0 →
      Unchanged s (connectClientToDevice w cfg c d s).2) ↔
    ¬ Torn w (.connect c d) s := by
  have hReady := launchResult_readied w cfg d (s.setRetries d cfg.gRetries)
  have hReset : ((s.setRetries d cfg.gRetries).dev d).status = (s.dev d).status := by simp
  rw [hReset] at hReady
  rcases connect_cases hRetries w c d s with ⟨hClients, hEq⟩ | ⟨hFree, hUp, hEq⟩ |
    ⟨hFree, hHang, hFail, hEq⟩ | ⟨hFree, hNotUp, hFail, hKilled, hEq⟩ |
    ⟨hFree, hNotUp, hDial, hKilled, hEq⟩ <;> rw [hEq, Torn]
  · -- the client is only noted
    rw [if_neg hClients]
    exact clean_noteClient_iff h hc hd
  · -- the device is up already
    rw [if_pos hFree]
    refine iff_of_true (fun _ => ?_) ?_
    · exact .of_touched ((touched_setRetries d s _).trans (touched_setErrno d _ _))
        (by simp) (by simp) fun _ _ => rfl
    · simp [Dials, Kills, hUp]
  · -- the old connection cannot be killed
    rw [if_pos hFree]
    refine iff_of_true (fun _ => ?_) ?_
    · have hResetSame : Unchanged s (s.setRetries d cfg.gRetries) :=
        .of_touched (touched_setRetries d s _) (by simp) (by simp) fun _ _ => rfl
      have hForced : Unchanged (s.setRetries d cfg.gRetries)
          (forcedDown w d (s.setRetries d cfg.gRetries)) :=
        unchanged_forcedDown (by simpa using hFail.ne)
      exact hResetSame.trans rfl hForced
    · simp only [Dials, Kills]
      omega
  · -- the device cannot be dialled
    rw [if_pos hFree]
    have hNoDial : ¬ Dials w d s := by
      intro hDials
      obtain ⟨-, hLaunch, hNext⟩ := hDials
      rw [hReady] at hFail
      split at hFail
      · rename_i hHang
        exact absurd (hNext hHang) (Int.not_le.mpr hFail)
      · exact absurd hLaunch (Int.not_le.mpr hFail)
    have hIff := clean_undialled_iff w cfg h hFree cfg.gRetries
    simp only [hNoDial, false_and, not_false_eq_true, true_and, false_or]
    rw [← hIff]
    exact ⟨fun hClean => hClean (by simp), fun hSame _ => hSame⟩
  · -- the dial works, and the client is noted
    rw [if_pos hFree]
    have hDials : Dials w d s := by
      rw [hReady] at hDial
      refine ⟨hNotUp, ?_, fun hHang => ?_⟩
      · split at hDial
        · rename_i hHang
          exact hKilled hHang
        · exact hDial
      · rwa [if_pos hHang] at hDial
    simp only [hDials, not_true_eq_false, true_and, false_and, and_false, or_false]
    exact clean_dialled_iff h hc hd hFree cfg.gRetries

-- ---------------------------------------------------------------------------
-- Requests
-- ---------------------------------------------------------------------------

/-- A failed FORCE_DOWN changes nothing. -/
theorem unchanged_forceDown (h : ((Op.forceDown d).run w cfg s).1 < 0) :
    Unchanged s ((Op.forceDown d).run w cfg s).2 := by
  rcases forceDown_cases w cfg d s with ⟨-, hEq⟩ | ⟨-, hLaunch, hEq⟩ | ⟨-, -, hEq⟩ <;>
    rw [hEq] at h ⊢
  · exact absurd h (by simp)
  · exact unchanged_forcedDown hLaunch.ne
  · exact absurd h (by simp)

/-- The call of a client request fails cleanly or is torn. -/
theorem clean_clientOp_iff (hRetries : 0 ≤ cfg.gRetries) (h : WellFormed s)
    (hc : c ∈ s.gClients) {message : CStr} {o : Op} (hOp : clientOp c message s = some o) :
    ((o.run w cfg s).1 < 0 → Unchanged s (o.run w cfg s).2) ↔ ¬ Torn w o s := by
  have hApplies : o.Applies cfg s := Kept.applies_of_clientOp h hc hOp
  unfold clientOp at hOp
  cases hMsg : clientMessage message with
  | up name =>
    rw [hMsg] at hOp
    obtain ⟨d, -, rfl⟩ := Option.map_eq_some_iff.mp hOp
    exact clean_connect_iff hRetries h hApplies.1 hApplies.2
  | down name =>
    rw [hMsg] at hOp
    obtain ⟨d, -, rfl⟩ := Option.map_eq_some_iff.mp hOp
    exact clean_disconnect_iff hApplies.2
  | forceDown name =>
    rw [hMsg] at hOp
    obtain ⟨d, -, rfl⟩ := Option.map_eq_some_iff.mp hOp
    exact iff_of_true unchanged_forceDown id
  | _ => simp [hMsg] at hOp

/-- A client request from a known client. -/
theorem clean_clientRequest_iff (hRetries : 0 ≤ cfg.gRetries) (h : WellFormed s)
    (hc : c ∈ s.gClients) (message : CStr) :
    ((clientRequest w cfg c message s).1 = -1 → Unchanged s (clientRequest w cfg c message s).2) ↔
      ∀ o, clientOp c message s = some o → ¬ Torn w o s := by
  cases hOp : clientOp c message s with
  | none =>
    refine iff_of_true (fun _ => ?_) (by simp)
    exact (clientRequest_of_none w cfg hOp).unchanged
  | some o =>
    have hIff := clean_clientOp_iff (w := w) hRetries h hc hOp
    rw [clientRequest_of_op w cfg hOp, unlessFails_done]
    -- the message fails when its call does
    have hFails : (unlessFails (o.run w cfg s) fun s => (0, s)).1 = -1 ↔
        (o.run w cfg s).1 < 0 := by
      rcases lt_or_ge (o.run w cfg s).1 0 with hNeg | hPos
      · simp [unlessFails_of_neg hNeg, hNeg]
      · simp [unlessFails_of_nonneg hPos, hPos]
    rw [hFails, hIff]
    simp

/-- A client message, the entry of its sender into the list of clients included. -/
theorem clean_processClient_iff (hRetries : 0 ≤ cfg.gRetries) (h : WellFormed s)
    (cli : SockAddr) (message : CStr) :
    ((processClient w cfg cli message s).1 = -1 →
      Unchanged s (processClient w cfg cli message s).2) ↔
    Calls w cfg (fun o s => ¬ Torn w o s) (.client cli message) s := by
  have hRest : ∀ {c : CliPtr} {s' : State}, Unchanged s s' → s'.gDevices = s.gDevices →
      WellFormed s' → c ∈ s'.gClients → (s'.cli c).sa.addr = cli.addr →
      (((clientRequest w cfg c message (updateClient w c cli s')).1 = -1 →
        Unchanged s (clientRequest w cfg c message (updateClient w c cli s')).2) ↔
      ∀ o, clientOp c message (updateClient w c cli s') = some o →
        ¬ Torn w o (updateClient w c cli s')) := by
    intro c s' hSame hDevices h' hc hAddr
    have hq : Quiet s' (updateClient w c cli s') := quiet_updateClient w hAddr
    have hKnown : Unchanged s (updateClient w c cli s') := hSame.trans hDevices hq.unchanged
    rw [hKnown.congr_left (hq.gDevices.trans hDevices)]
    exact clean_clientRequest_iff hRetries (h'.quiet hq) (hq.gClients ▸ hc) message
  unfold processClient
  rw [Calls]
  rcases knownClient_cases w cli s with ⟨c, hEq, hc, hAddr⟩ | ⟨c, s', hEq, hj, hSa, -, -⟩ |
    ⟨s', hEq, hq, -⟩ <;> rw [hEq]
  · exact hRest (.refl s) rfl h hc hAddr
  · have hc : c ∈ s'.gClients := by simp [hj.gClients]
    exact hRest hj.unchanged hj.gDevices (h.joined hj) hc (congrArg SockAddr.addr hSa)
  · exact iff_of_true (fun _ => hq.unchanged) trivial

/-- A failed notice changes nothing. -/
theorem unchanged_processPeer {message : CStr} (h : (processPeer w cfg message s).1 = -1) :
    Unchanged s (processPeer w cfg message s).2 := by
  unfold processPeer at h ⊢
  cases hMsg : peerMessage message with
  | isup name =>
    simp only [hMsg] at h ⊢
    have hq := quiet_getDevice s.gDevices name s
    rcases hGet : getDevice s.gDevices name s with ⟨_ | d, s'⟩ <;> rw [hGet] at h hq
    · exact hq.unchanged
    · exact absurd h (by simp)
  | isdown name =>
    simp only [hMsg] at h ⊢
    have hq := quiet_getDevice s.gDevices name s
    rcases hGet : getDevice s.gDevices name s with ⟨_ | d, s'⟩ <;> rw [hGet] at h hq
    · exact hq.unchanged
    · obtain ⟨-, -, rfl⟩ := getDevice_some hGet
      exact unchanged_alterToDown (h.trans_lt (by simp))
  | unknown => exact (quiet_setErrno s _).unchanged

/-- **When failed requests are atomic.** In every reachable state, a client message that
returns -1 leaves all statuses and lists as they were if and only if it does not fail half
way; a notice of the peer that returns -1 always does. -/
theorem failed_requests_atomic_iff (w : World) (cfg : Config) (sections : List DeviceSection)
    (es : List Event) (hRetries : 0 ≤ cfg.gRetries) :
    let s := serverRun w cfg es (boot w sections)
    (∀ cli message,
      ((step w cfg (.client cli message) s).1 = -1 →
        Unchanged s (step w cfg (.client cli message) s).2) ↔
      StepCalls w cfg (fun o s => ¬ Torn w o s) (.client cli message) s) ∧
    ∀ message, (step w cfg (.peer message) s).1 = -1 →
      Unchanged s (step w cfg (.peer message) s).2 := by
  intro s
  have h : WellFormed (advance w s) :=
    (wellFormed_run w cfg sections es).quiet (quiet_advance w s)
  have hNow : Unchanged s (advance w s) := (quiet_advance w s).unchanged
  refine ⟨fun cli message => ?_, fun message => ?_⟩
  · unfold step StepCalls
    split
    · exact iff_of_true (fun _ => .refl s) (by simp [*])
    · rename_i hCrashed
      rw [hNow.congr_left rfl]
      have hIff := clean_processClient_iff (w := w) hRetries h cli message
      exact hIff.trans ⟨fun hClean _ => hClean, fun hClean => hClean (by simpa using hCrashed)⟩
  · unfold step
    split
    · exact fun _ => .refl s
    · exact fun hFail => hNow.trans rfl (unchanged_processPeer hFail)

/-- The defaults, and a server that has connected a client and hung up again. -/
theorem failed_requests_atomic_iff_calm :
    let w := calmWorld 1 [0, -1]
    let s := serverRun w defaultConfig
      [aboutPpp clientUp 1, noticeAboutPpp notifyIsup] (boot w [pppSection])
    (∀ cli message,
      ((step w defaultConfig (.client cli message) s).1 = -1 →
        Unchanged s (step w defaultConfig (.client cli message) s).2) ↔
      StepCalls w defaultConfig (fun o s => ¬ Torn w o s) (.client cli message) s) ∧
    ∀ message, (step w defaultConfig (.peer message) s).1 = -1 →
      Unchanged s (step w defaultConfig (.peer message) s).2 :=
  failed_requests_atomic_iff _ _ _ _ (by decide)

/-- The link is up for one client, which asks for DOWN, and the command that takes it down
cannot be run: the message fails, and the link stays up with nobody listed. -/
theorem failed_down_not_atomic :
    let w := calmWorld 0 [0, -1]
    let s := serverRun w defaultConfig
      [aboutPpp clientUp 1, noticeAboutPpp notifyIsup] (boot w [pppSection])
    let s' := (step w defaultConfig (aboutPpp clientDown 1) s).2
    0 ∈ s.gDevices ∧ (step w defaultConfig (aboutPpp clientDown 1) s).1 = -1 ∧
      (s.dev 0).clientsConnected ≠ [] ∧ (s'.dev 0).clientsConnected = [] ∧
      (s'.dev 0).status = .up := by
  decide +kernel

end LinkControl
