import LinkControl.Server.Broadcast

/-!
# Link server — the device list

`send_device_list` of `send_message.c`: the text it sends is one line for each device
(`sendDeviceList_sent`). `send_client_status`: the text it sends is the names of the devices
of the client with tabs between them (`sendClientStatus_sent`).
-/

namespace LinkControl

/-- What `send_device_list` says about a device. -/
def deviceLine (d : Device) : CStr :=
  d.deviceName ++ ['\t'] ++ d.deviceDescription.getD [] ++ ['\n']

variable {w : World} {s s' : State}

/-- The loop of `send_device_list` adds one line for each device. -/
theorem appendDevices_text {ds : List DevPtr} {text text' : CStr}
    (h : appendDevices w ds text s = (some text', s')) :
    text' = text ++ ds.flatMap fun d => deviceLine (s.dev d) := by
  induction ds generalizing text s with
  | nil =>
    obtain ⟨hText, -⟩ := Prod.mk.inj h
    simpa using (Option.some.inj hText).symm
  | cons d rest ih =>
    unfold appendDevices at h
    cases hDescription : (s.dev d).deviceDescription with
    | none => simp [hDescription] at h
    | some description =>
      rcases hMalloc : malloc w s with ⟨_ | p, s₁⟩
      · simp [hDescription, hMalloc] at h
      · simp only [hDescription, hMalloc] at h
        have hDev : s₁.dev = s.dev := by rw [malloc_some hMalloc]
        rw [ih h, hDev, List.flatMap_cons, deviceLine, hDescription]
        simp

theorem malloc_sent (w : World) (s : State) : (malloc w s).2.sent = s.sent := by
  unfold malloc
  split <;> rfl

theorem appendDevices_sent (w : World) (ds : List DevPtr) (text : CStr) (s : State) :
    (appendDevices w ds text s).2.sent = s.sent := by
  induction ds generalizing text s with
  | nil => rfl
  | cons d rest ih =>
    unfold appendDevices
    split
    · rfl
    · have hMalloc := malloc_sent w s
      split <;> rename_i hEq <;> rw [hEq] at hMalloc
      · exact hMalloc
      · exact (ih _ _).trans hMalloc

/-- What has been sent is the text, if anything has. -/
theorem sendReply_sent {client : CliPtr} {text text' : CStr} {peer : SockAddr}
    (h : (sendReply w client text s).2.sent = (peer, text') :: s.sent) : text' = text := by
  unfold sendReply at h
  split at h
  · have hHead := (List.cons.inj h).1
    exact (Prod.mk.inj hHead).2.symm
  · exact absurd (congrArg List.length h) (by simp)

/-- What `send_device_list` sends. -/
theorem sendDeviceList_sent {client : CliPtr} {peer : SockAddr} {text : CStr}
    (h : (sendDeviceList w client s).2.sent = (peer, text) :: s.sent) :
    text = serverDevices ++ s.gDevices.flatMap fun d => deviceLine (s.dev d) := by
  have hNothing : ∀ s₁ : State, s₁.sent = s.sent → s₁.sent ≠ (peer, text) :: s.sent := by
    intro s₁ hSame hMore
    exact absurd (congrArg List.length (hSame.symm.trans hMore)) (by simp)
  unfold sendDeviceList at h
  have hFirst := quiet_malloc w s
  have hSent := malloc_sent w s
  rcases hMalloc : malloc w s with ⟨_ | p, s₁⟩ <;> rw [hMalloc] at hFirst hSent h
  · exact absurd h (hNothing s₁ hSent)
  · have hLoop := appendDevices_sent w s.gDevices serverDevices s₁
    dsimp only at h
    rw [show s₁.gDevices = s.gDevices from hFirst.gDevices] at h
    rcases hAppend : appendDevices w s.gDevices serverDevices s₁ with ⟨_ | text', s₂⟩ <;>
      rw [hAppend] at h hLoop
    · exact absurd h (hNothing s₂ (hLoop.trans hSent))
    · dsimp only at h
      rw [← hSent, ← show s₂.sent = s₁.sent from hLoop] at h
      rw [sendReply_sent h, appendDevices_text hAppend, show s₁.dev = s.dev from hFirst.dev]

-- ---------------------------------------------------------------------------
-- The devices of a client
-- ---------------------------------------------------------------------------

/-- Names with tabs between them. -/
def nameList : List CStr → CStr
  | [] => []
  | name :: rest => name ++ rest.flatMap ('\t' :: ·)

/-- The names are separated by tabs. -/
theorem nameList_cons_cons (name next : CStr) (rest : List CStr) :
    nameList (name :: next :: rest) = name ++ '\t' :: nameList (next :: rest) := by
  simp [nameList]

/-- The names of the devices that a client is connected to. -/
def connectedNames (client : CliPtr) (s : State) : List CStr :=
  (s.cli client).devicesConnected.map fun d => (s.dev d).deviceName

/-- The loop of `send_client_status` adds one name for each device. -/
theorem appendNames_text {ds : List DevPtr} {text text' : CStr}
    (h : appendNames w ds text s = (some text', s')) :
    text' = text ++ (ds.map fun d => (s.dev d).deviceName).flatMap ('\t' :: ·) := by
  induction ds generalizing text s with
  | nil =>
    obtain ⟨hText, -⟩ := Prod.mk.inj h
    simpa using (Option.some.inj hText).symm
  | cons d rest ih =>
    unfold appendNames at h
    rcases hMalloc : malloc w s with ⟨_ | p, s₁⟩
    · simp [hMalloc] at h
    · simp only [hMalloc] at h
      have hDev : s₁.dev = s.dev := by rw [malloc_some hMalloc]
      rw [ih h, hDev]
      simp

/-- Making the text sends nothing. -/
theorem appendNames_sent (w : World) (ds : List DevPtr) (text : CStr) (s : State) :
    (appendNames w ds text s).2.sent = s.sent := by
  induction ds generalizing text s with
  | nil => rfl
  | cons d rest ih =>
    unfold appendNames
    have hMalloc := malloc_sent w s
    split <;> rename_i hEq <;> rw [hEq] at hMalloc
    · exact hMalloc
    · exact (ih _ _).trans hMalloc

/-- What `send_client_status` sends. -/
theorem sendClientStatus_sent {client : CliPtr} {peer : SockAddr} {text : CStr}
    (h : (sendClientStatus w client s).2.sent = (peer, text) :: s.sent) :
    text = serverClientStatus ++ nameList (connectedNames client s) := by
  have hNothing : ∀ s₁ : State, s₁.sent = s.sent → s₁.sent ≠ (peer, text) :: s.sent := by
    intro s₁ hSame hMore
    exact absurd (congrArg List.length (hSame.symm.trans hMore)) (by simp)
  unfold sendClientStatus at h
  have hSent := malloc_sent w s
  rcases hMalloc : malloc w s with ⟨_ | p, s₁⟩ <;> rw [hMalloc] at hSent h
  · exact absurd h (hNothing s₁ hSent)
  · have hCli : s₁.cli = s.cli := by rw [malloc_some hMalloc]
    dsimp only at h
    rw [hCli] at h
    unfold connectedNames
    cases hDevices : (s.cli client).devicesConnected with
    | nil =>
      simp only [hDevices] at h
      rw [← show s₁.sent = s.sent from hSent] at h
      rw [sendReply_sent h, List.map_nil, nameList, List.append_nil]
    | cons d rest =>
      simp only [hDevices] at h
      have hSent' := malloc_sent w s₁
      rcases hMalloc' : malloc w s₁ with ⟨_ | p', s₂⟩ <;> rw [hMalloc'] at hSent' h
      · exact absurd h (hNothing s₂ (hSent'.trans hSent))
      · dsimp only at h
        have hDev : s₂.dev = s.dev := by rw [malloc_some hMalloc', malloc_some hMalloc]
        have hLoop := appendNames_sent w rest (serverClientStatus ++ (s₂.dev d).deviceName) s₂
        rcases hAppend : appendNames w rest (serverClientStatus ++ (s₂.dev d).deviceName) s₂ with
          ⟨_ | text', s₃⟩ <;> rw [hAppend] at h hLoop
        · exact absurd h (hNothing s₃ (hLoop.trans (hSent'.trans hSent)))
        · dsimp only at h
          rw [← hSent, ← show s₂.sent = s₁.sent from hSent', ← show s₃.sent = s₂.sent from hLoop] at h
          rw [sendReply_sent h, appendNames_text hAppend, hDev, List.map_cons, nameList,
            List.append_assoc]

end LinkControl
