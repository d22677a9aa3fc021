import LinkControl.Server.Local
import LinkControl.Server.DeviceList

/-!
# Link server — what is sent

Everything the server sends goes through two calls of `sendto ()`: the one that ends each of
the three replies (`sendReply`) and the one in `broadcast_message`. `outbox` is what has been
sent, in order.

* no transition and no list function sends anything (`op_sent`);
* a client message sends nothing, or the one answer that `replyText` says, to the address the
  message came from (`processClient_outbox`);
* what the peer says and the two sweeps send nothing (`processPeer_outbox` and its siblings);
* a broadcast is quiet, and puts at most its one text into the outbox.
-/

namespace LinkControl

open ReturnCode

/-- What has been sent, oldest first. -/
def outbox (s : State) : List (SockAddr × CStr) := s.sent.reverse

/-- The outbox is a matter of what has been sent. -/
theorem outbox_eq {s s' : State} (h : s'.sent = s.sent) : outbox s' = outbox s :=
  congrArg List.reverse h

-- ---------------------------------------------------------------------------
-- Broadcasts
-- ---------------------------------------------------------------------------

section StatusMessage

variable {w : World} {I : State → Prop}

/-- What allocations and the clock leave as it is, the printer of a status leaves as it is. -/
theorem printDeviceStatus_keeps (hMalloc : ∀ {s}, I s → I (malloc w s).2)
    (hAdvance : ∀ {s}, I s → I (advance w s)) (d : DevPtr) {s : State} (h : I s) :
    I (printDeviceStatus w d s).2 := by
  have hFirst := hMalloc h
  unfold printDeviceStatus
  split <;> rename_i hEq <;> rw [hEq] at hFirst
  · exact hFirst
  · rename_i s₁
    dsimp only
    split
    · have hSecond := hMalloc (hAdvance hFirst)
      split <;> rename_i hEq' <;> rw [hEq'] at hSecond <;> exact hSecond
    · exact hFirst

/-- The status report asks for memory and looks at the clock, and does nothing else. -/
theorem appendStatuses_keeps (hMalloc : ∀ {s}, I s → I (malloc w s).2)
    (hAdvance : ∀ {s}, I s → I (advance w s)) (ds : List DevPtr) (message : CStr) {s : State}
    (h : I s) : I (appendStatuses w ds message s).2 := by
  induction ds generalizing message s with
  | nil => exact h
  | cons d rest ih =>
    have hPrint := printDeviceStatus_keeps (I := I) hMalloc hAdvance d h
    unfold appendStatuses
    split <;> rename_i hEq <;> rw [hEq] at hPrint
    · exact hPrint
    · have hNext := hMalloc hPrint
      split <;> rename_i hEq' <;> rw [hEq'] at hNext
      · exact hNext
      · exact ih _ hNext

/-- So does the builder of the status message. -/
theorem statusMessage_keeps (hMalloc : ∀ {s}, I s → I (malloc w s).2)
    (hAdvance : ∀ {s}, I s → I (advance w s)) {s : State} (h : I s) :
    I (statusMessage w s).2 := by
  have hFirst := hMalloc h
  unfold statusMessage
  split <;> rename_i hEq <;> rw [hEq] at hFirst
  · exact hFirst
  · exact appendStatuses_keeps (I := I) hMalloc hAdvance _ _ hFirst

/-- A broadcast of the status message does no more than send it. -/
theorem broadcastStatusMessage_keeps (hMalloc : ∀ {s}, I s → I (malloc w s).2)
    (hAdvance : ∀ {s}, I s → I (advance w s))
    (hSend : ∀ {group text s}, I s → I (broadcastMessage w group text s).2)
    (group : Option SockAddr) {s : State} (h : I s) : I (broadcastStatusMessage w group s).2 := by
  have hMessage := statusMessage_keeps (I := I) hMalloc hAdvance h
  unfold broadcastStatusMessage
  split <;> rename_i hEq <;> rw [hEq] at hMessage
  · exact hMessage
  · exact hSend hMessage

end StatusMessage

theorem printDeviceStatus_sent (w : World) (d : DevPtr) (s : State) :
    (printDeviceStatus w d s).2.sent = s.sent :=
  printDeviceStatus_keeps (I := fun s' => s'.sent = s.sent)
    (fun h => (malloc_sent w _).trans h) (fun h => h) d rfl

theorem statusMessage_sent (w : World) (s : State) : (statusMessage w s).2.sent = s.sent :=
  statusMessage_keeps (I := fun s' => s'.sent = s.sent)
    (fun h => (malloc_sent w _).trans h) (fun h => h) rfl

/-- A broadcast touches no list and no device. -/
theorem quiet_broadcastMessage (w : World) (group : Option SockAddr) (text : CStr) (s : State) :
    Quiet s (broadcastMessage w group text s).2 := by
  unfold broadcastMessage
  split
  · exact Quiet.refl s
  · split <;> exact { Quiet.refl s with }

theorem quiet_broadcastCopy (w : World) (group : Option SockAddr) (text : CStr) (s : State) :
    Quiet s (broadcastCopy w group text s).2 := by
  have hMalloc := quiet_malloc w s
  unfold broadcastCopy
  split <;> rename_i hEq <;> rw [hEq] at hMalloc
  · exact hMalloc.trans { Quiet.refl _ with }
  · exact hMalloc.trans (quiet_broadcastMessage w group text _)

theorem quiet_broadcastStatusMessage (w : World) (group : Option SockAddr) (s : State) :
    Quiet s (broadcastStatusMessage w group s).2 :=
  broadcastStatusMessage_keeps (I := Quiet s) (fun h => h.trans (quiet_malloc w _))
    (fun h => h.trans (quiet_advance w _)) (fun h => h.trans (quiet_broadcastMessage w _ _ _)) group
    (Quiet.refl s)

/-- A broadcast sends its text to the group, or nothing. -/
theorem broadcastMessage_outbox (w : World) (group : Option SockAddr) (text : CStr) (s : State) :
    outbox (broadcastMessage w group text s).2 = outbox s ∨
      ∃ sa, group = some sa ∧
        outbox (broadcastMessage w group text s).2 = outbox s ++ [(sa, text)] := by
  unfold broadcastMessage
  cases group with
  | none => exact Or.inl rfl
  | some sa =>
    cases hSend : w.sendto s.sends with
    | none => exact Or.inr ⟨sa, rfl, by simp [outbox]⟩
    | some e => exact Or.inl (by simp [outbox])

/-- At most one copy goes out, to the group. -/
theorem broadcastCopy_outbox (w : World) (group : Option SockAddr) (text : CStr) (s : State) :
    outbox (broadcastCopy w group text s).2 = outbox s ∨
      ∃ sa, group = some sa ∧
        outbox (broadcastCopy w group text s).2 = outbox s ++ [(sa, text)] := by
  have hMalloc := malloc_sent w s
  unfold broadcastCopy
  split <;> rename_i hEq <;> rw [hEq] at hMalloc
  · exact Or.inl (outbox_eq hMalloc)
  · rename_i s₁
    rw [← (outbox_eq hMalloc : outbox s₁ = outbox s)]
    exact broadcastMessage_outbox w group text s₁

/-- A status broadcast sends the text of its reports, or nothing. -/
theorem broadcastStatusMessage_outbox (w : World) (group : Option SockAddr) (s : State) :
    outbox (broadcastStatusMessage w group s).2 = outbox s ∨
      ∃ sa, group = some sa ∧ outbox (broadcastStatusMessage w group s).2 =
        outbox s ++ [(sa, broadcastStatus ++ reportText (reports w s))] := by
  have hSent := statusMessage_sent w s
  unfold broadcastStatusMessage
  split <;> rename_i hEq <;> rw [hEq] at hSent
  · exact Or.inl (outbox_eq hSent)
  · rename_i text s₁
    rw [← (outbox_eq hSent : outbox s₁ = outbox s), ← reports_text hEq]
    exact broadcastMessage_outbox w group text s₁

-- ---------------------------------------------------------------------------
-- Calls
-- ---------------------------------------------------------------------------

section Calls

variable (w : World) (cfg : Config) (c : CliPtr) (d : DevPtr) (s : State)

@[simp] theorem wiped_sent : (wiped d s).sent = s.sent := by
  obtain ⟨e, f, h⟩ := wiped_eq d s
  rw [h]
  rfl

@[simp] theorem forgetDevice_sent : (forgetDevice d c s).2.sent = s.sent := by
  obtain ⟨e, h⟩ := forgetDevice_eq d c s
  rw [h]

@[simp] theorem forcedDown_sent : (forcedDown w d s).sent = s.sent := by
  unfold forcedDown; split <;> simp

@[simp] theorem commanded_sent (command : Command) : (commanded w d command s).sent = s.sent := by
  unfold commanded; split <;> simp

@[simp] theorem dialled_sent : (dialled w d s).sent = s.sent := by simp [dialled]

@[simp] theorem undialled_sent : (undialled w d s).sent = s.sent := by simp [undialled]

@[simp] theorem exhausted_sent : (exhausted d s).sent = s.sent := by simp [exhausted]

@[simp] theorem readied_sent : (readied w cfg d s).sent = s.sent := by
  unfold readied; split <;> simp

@[simp] theorem hungUp_sent : (hungUp w d s).sent = s.sent := by
  unfold hungUp; split <;> simp

theorem alterToDown_sent : (alterToDown w d s).2.sent = s.sent := by
  rcases alterToDown_cases w d s with ⟨-, hEq⟩ | ⟨-, -, hEq⟩ | ⟨-, -, hEq⟩ <;> rw [hEq] <;> simp

theorem redial_sent : (redial w d s).2.sent = s.sent := by
  rcases redial_cases w d s with ⟨-, hEq⟩ | ⟨-, -, hEq⟩ | ⟨-, -, hEq⟩ <;> rw [hEq]
  · exact (alterToDown_sent w d _).trans (exhausted_sent d s)
  · exact undialled_sent w d s
  · exact dialled_sent w d s

theorem alterToConnecting_sent : (alterToConnecting w cfg d s).2.sent = s.sent := by
  rcases alterToConnecting_cases w cfg d s with ⟨-, hEq⟩ | ⟨-, hEq⟩ | ⟨-, -, hEq⟩ | ⟨-, hEq⟩ <;>
    rw [hEq]
  · rfl
  · exact redial_sent w d s
  · exact forcedDown_sent w d s
  · exact (redial_sent w d _).trans (readied_sent w cfg d s)

theorem alterToDisconnecting_sent : (alterToDisconnecting w d s).2.sent = s.sent := by
  rcases alterToDisconnecting_cases w d s with ⟨-, hEq⟩ | ⟨-, -, hEq⟩ | ⟨-, -, hEq⟩ |
    ⟨-, -, hEq⟩ <;> rw [hEq] <;> simp

theorem alterToUp_sent : (alterToUp w d s).2.sent = s.sent := by
  rcases alterToUp_cases w d s with ⟨-, hEq⟩ | ⟨-, hEq⟩ <;> rw [hEq] <;> rfl

/-- No change of status sends anything. -/
theorem alterDeviceStatus_sent (new : DeviceStatus) :
    (alterDeviceStatus w cfg d new s).2.sent = s.sent := by
  cases new with
  | connecting => exact alterToConnecting_sent w cfg d s
  | disconnecting => exact alterToDisconnecting_sent w d s
  | up => exact alterToUp_sent w d s
  | down => exact alterToDown_sent w d s

theorem noteDevice_sent : (noteDevice w c d s).2.sent = s.sent := by
  rcases noteDevice_cases w c d s with ⟨-, hEq⟩ | ⟨-, -, hEq⟩ | ⟨-, -, hEq⟩ <;> rw [hEq] <;> rfl

theorem noteClient_sent : (noteClient w c d s).2.sent = s.sent := by
  rcases noteClient_cases w c d s with ⟨-, hEq⟩ | ⟨-, -, hEq⟩ | ⟨-, -, hEq⟩ <;> rw [hEq]
  · exact noteDevice_sent w c d _
  · exact noteDevice_sent w c d _

/-- Connecting sends nothing, -/
theorem connectClientToDevice_sent : (connectClientToDevice w cfg c d s).2.sent = s.sent := by
  have hDial : (alterToConnecting w cfg d (s.setRetries d cfg.gRetries)).2.sent = s.sent :=
    alterToConnecting_sent w cfg d _
  rcases connectClientToDevice_cases w cfg c d s with ⟨-, hEq⟩ | ⟨-, -, hEq⟩ | ⟨-, -, hEq⟩ <;>
    rw [hEq]
  · exact noteClient_sent w c d s
  · exact hDial
  · exact (noteClient_sent w c d _).trans hDial

/-- and neither does leaving. -/
theorem disconnectClientFromDevice_sent :
    (disconnectClientFromDevice w cfg c d s).2.sent = s.sent := by
  rcases disconnectClientFromDevice_cases w cfg c d s with ⟨-, hEq⟩ | ⟨-, -, hEq⟩ |
    ⟨-, -, hEq⟩ | ⟨-, -, -, hEq⟩ | ⟨-, -, -, hEq⟩ | ⟨-, -, -, hEq⟩ <;> rw [hEq] <;> simp

/-- No call sends anything. -/
theorem op_sent (o : Op) : (o.run w cfg s).2.sent = s.sent := by
  cases o with
  | connect c d => exact connectClientToDevice_sent w cfg c d s
  | disconnect c d => exact disconnectClientFromDevice_sent w cfg c d s
  | isUp d => exact alterDeviceStatus_sent w cfg d s .up
  | isDown d => exact alterDeviceStatus_sent w cfg d s .down
  | forceDown d =>
    have hDown := alterDeviceStatus_sent w cfg d s .down
    exact unlessFails_post (I := fun s' : State => s'.sent = s.sent) (fun _ => hDown)
      fun _ => hDown
  | timeout d => exact alterDeviceStatus_sent w cfg d s _
  | expire c d =>
    rw [run_expire]
    exact disconnectClientFromDevice_sent w cfg c d s

end Calls

-- ---------------------------------------------------------------------------
-- Replies
-- ---------------------------------------------------------------------------

/-- The line of a report, without its newline. -/
def Report.line (r : Report) : CStr := r.name ++ ['\t'] ++ statusWord r.status ++ r.numbers

/-- What a client is to be told: the devices with their descriptions, the status of the
device it names, or the devices it is connected to. -/
def replyText (w : World) (client : CliPtr) (message : CStr) (s : State) : Option CStr :=
  match clientMessage message with
  | .devices => some (serverDevices ++ s.gDevices.flatMap fun d => deviceLine (s.dev d))
  | .status name => (getDevice s.gDevices name s).1.map fun d =>
      serverStatusPrefix ++ (report w d s).line
  | .clientStatus => some (serverClientStatus ++ nameList (connectedNames client s))
  | .ping | .up _ | .down _ | .forceDown _ | .unknown => none

/-- The state after a call that sent `text` to the client, or nothing. -/
def Replied (client : CliPtr) (text : CStr) (s s' : State) : Prop :=
  outbox s' = outbox s ∨ outbox s' = outbox s ++ [((s.cli client).sa, text)]

section Replies

variable {w : World} {cfg : Config} {c : CliPtr} {d : DevPtr} {s s₁ : State} {text : CStr}

/-- A call that has looked something up, and then replies. -/
theorem replied_sendReply (hSent : s₁.sent = s.sent) (hCli : s₁.cli = s.cli) :
    Replied c text s (sendReply w c text s₁).2 := by
  unfold Replied sendReply outbox
  cases hSend : w.sendto s₁.sends with
  | none => exact Or.inr (by simp [hSent, hCli])
  | some e => exact Or.inl (by simp [hSent])

theorem malloc_cli (w : World) (s : State) : (malloc w s).2.cli = s.cli := by
  unfold malloc
  split <;> rfl

theorem appendDevices_cli (w : World) (ds : List DevPtr) (text : CStr) (s : State) :
    (appendDevices w ds text s).2.cli = s.cli := by
  induction ds generalizing text s with
  | nil => rfl
  | cons d rest ih =>
    unfold appendDevices
    split
    · rfl
    · have hMalloc := malloc_cli w s
      split <;> rename_i hEq <;> rw [hEq] at hMalloc
      · exact hMalloc
      · exact (ih _ _).trans hMalloc

theorem appendNames_cli (w : World) (ds : List DevPtr) (text : CStr) (s : State) :
    (appendNames w ds text s).2.cli = s.cli := by
  induction ds generalizing text s with
  | nil => rfl
  | cons d rest ih =>
    unfold appendNames
    have hMalloc := malloc_cli w s
    split <;> rename_i hEq <;> rw [hEq] at hMalloc
    · exact hMalloc
    · exact (ih _ _).trans hMalloc

theorem printDeviceStatus_cli (w : World) (d : DevPtr) (s : State) :
    (printDeviceStatus w d s).2.cli = s.cli :=
  printDeviceStatus_keeps (I := fun s' => s'.cli = s.cli)
    (fun h => (malloc_cli w _).trans h) (fun h => h) d rfl

/-- DEVICES is answered with a line for every device. -/
theorem replied_sendDeviceList (w : World) (c : CliPtr) (s : State) : Replied c
    (serverDevices ++ s.gDevices.flatMap fun d => deviceLine (s.dev d)) s
    (sendDeviceList w c s).2 := by
  have hSent := malloc_sent w s
  unfold sendDeviceList
  rcases hMalloc : malloc w s with ⟨_ | p, s₁⟩ <;> rw [hMalloc] at hSent
  · exact Or.inl (outbox_eq hSent)
  · obtain rfl := malloc_some hMalloc
    dsimp only
    set s₁ : State := { s with mallocs := s.mallocs + 1 }
    have hLoop := appendDevices_sent w s.gDevices serverDevices s₁
    have hCli := appendDevices_cli w s.gDevices serverDevices s₁
    rcases hAppend : appendDevices w s.gDevices serverDevices s₁ with ⟨_ | text, s₂⟩ <;>
      rw [hAppend] at hLoop hCli
    · exact Or.inl (outbox_eq (hLoop.trans hSent))
    · rw [appendDevices_text hAppend]
      exact replied_sendReply (hLoop.trans hSent) hCli

/-- STATUS is answered with the line of the device. -/
theorem replied_sendDeviceStatus (w : World) (c : CliPtr) (d : DevPtr) (s : State) :
    Replied c (serverStatusPrefix ++ (report w d s).line) s (sendDeviceStatus w c d s).2 := by
  have hSent := malloc_sent w s
  unfold sendDeviceStatus
  rcases hMalloc : malloc w s with ⟨_ | p, s₁⟩ <;> rw [hMalloc] at hSent
  · exact Or.inl (outbox_eq hSent)
  · obtain rfl := malloc_some hMalloc
    dsimp only
    set s₁ : State := { s with mallocs := s.mallocs + 1 } with hs₁
    have hPrint := printDeviceStatus_sent w d s₁
    have hCli := printDeviceStatus_cli w d s₁
    rcases hDevStat : printDeviceStatus w d s₁ with ⟨_ | devStat, s₂⟩ <;>
      rw [hDevStat] at hPrint hCli
    · exact Or.inl (outbox_eq (hPrint.trans hSent))
    · have hText : devStat = (report w d s).line := by
        have hLine := printDeviceStatus_text hDevStat
        have hReport : report w d (malloc w s₁).2 = report w d s := by
          unfold report malloc
          split <;> rfl
        rw [hReport] at hLine
        exact List.append_cancel_right hLine
      rw [hText]
      exact replied_sendReply (hPrint.trans hSent) hCli

/-- CLIENT STATUS is answered with the names of the client's devices. -/
theorem replied_sendClientStatus (w : World) (c : CliPtr) (s : State) :
    Replied c (serverClientStatus ++ nameList (connectedNames c s)) s
      (sendClientStatus w c s).2 := by
  have hSent := malloc_sent w s
  unfold sendClientStatus connectedNames
  rcases hMalloc : malloc w s with ⟨_ | p, s₁⟩ <;> rw [hMalloc] at hSent
  · exact Or.inl (outbox_eq hSent)
  · obtain rfl := malloc_some hMalloc
    dsimp only
    set s₁ : State := { s with mallocs := s.mallocs + 1 }
    cases hDevices : (s.cli c).devicesConnected with
    | nil =>
      simp only [List.map_nil, nameList, List.append_nil]
      exact replied_sendReply rfl rfl
    | cons d rest =>
      have hSent' := malloc_sent w s₁
      rcases hMalloc' : malloc w s₁ with ⟨_ | p', s₂⟩ <;> rw [hMalloc'] at hSent'
      · exact Or.inl (outbox_eq (hSent'.trans hSent))
      · obtain rfl := malloc_some hMalloc'
        dsimp only
        set s₂ : State := { s₁ with mallocs := s₁.mallocs + 1 }
        have hLoop := appendNames_sent w rest (serverClientStatus ++ (s.dev d).deviceName) s₂
        have hCli := appendNames_cli w rest (serverClientStatus ++ (s.dev d).deviceName) s₂
        rcases hAppend : appendNames w rest (serverClientStatus ++ (s.dev d).deviceName) s₂ with
          ⟨_ | text, s₃⟩ <;> rw [hAppend] at hLoop hCli
        · exact Or.inl (outbox_eq hLoop)
        · rw [appendNames_text hAppend, List.map_cons, nameList, List.append_assoc]
          exact replied_sendReply hLoop hCli

theorem outbox_getDevice (pp : List DevPtr) (name : CStr) (s : State) :
    outbox (getDevice pp name s).2 = outbox s := by
  unfold getDevice
  split <;> rfl

/-- A request is answered as it is to be, or not at all. -/
theorem clientRequest_outbox (w : World) (cfg : Config) (c : CliPtr) (message : CStr) (s : State) :
    outbox (clientRequest w cfg c message s).2 = outbox s ∨
      ∃ text, replyText w c message s = some text ∧
        outbox (clientRequest w cfg c message s).2 = outbox s ++ [((s.cli c).sa, text)] := by
  have hAnswer : ∀ {text : CStr} {s' : State}, replyText w c message s = some text →
      Replied c text s s' → outbox s' = outbox s ∨ ∃ text, replyText w c message s = some text ∧
        outbox s' = outbox s ++ [((s.cli c).sa, text)] := by
    intro text s' hText hReplied
    exact hReplied.imp_right fun h => ⟨text, hText, h⟩
  cases hOp : clientOp c message s with
  | some o =>
    rw [clientRequest_of_op w cfg hOp, unlessFails_done]
    exact Or.inl (outbox_eq (op_sent w cfg s o))
  | none =>
    unfold clientOp at hOp
    unfold clientRequest
    unfold replyText at hAnswer ⊢
    cases hMsg : clientMessage message with
    | ping => exact Or.inl rfl
    | unknown => exact Or.inl rfl
    | devices =>
      rw [hMsg] at hAnswer
      exact hAnswer rfl (replied_sendDeviceList w c s)
    | clientStatus =>
      rw [hMsg] at hAnswer
      exact hAnswer rfl (replied_sendClientStatus w c s)
    | status name =>
      rw [hMsg] at hAnswer
      have hGet := outbox_getDevice s.gDevices name s
      dsimp only at hAnswer ⊢
      rcases hDevice : getDevice s.gDevices name s with ⟨_ | d, s₁⟩ <;> rw [hDevice] at hGet hAnswer
      · exact Or.inl hGet
      · obtain ⟨-, -, rfl⟩ := getDevice_some hDevice
        exact hAnswer rfl (replied_sendDeviceStatus w c d s₁)
    | up name =>
      have hGet := outbox_getDevice s.gDevices name s
      rcases hDevice : getDevice s.gDevices name s with ⟨_ | d, s₁⟩ <;> rw [hDevice] at hGet
      · exact Or.inl (by simpa only [hDevice] using hGet)
      · simp [hMsg, hDevice] at hOp
    | down name =>
      have hGet := outbox_getDevice (s.cli c).devicesConnected name s
      rcases hDevice : getDevice (s.cli c).devicesConnected name s with ⟨_ | d, s₁⟩ <;>
        rw [hDevice] at hGet
      · exact Or.inl (by simpa only [hDevice] using hGet)
      · simp [hMsg, hDevice] at hOp
    | forceDown name =>
      have hGet := outbox_getDevice s.gDevices name s
      rcases hDevice : getDevice s.gDevices name s with ⟨_ | d, s₁⟩ <;> rw [hDevice] at hGet
      · have hErrno : outbox (s₁.setErrno .enodev) = outbox s := hGet
        exact Or.inl (by simpa only [hDevice] using hErrno)
      · simp [hMsg, hDevice] at hOp

/-- The state in which a client message is answered, if there is memory to know its sender. -/
def asked (w : World) (cli : SockAddr) (s : State) : Option (CliPtr × State) :=
  match knownClient w cli s with
  | (none, _) => none
  | (some client, s) => some (client, updateClient w client cli s)

theorem outbox_getClient (pp : List CliPtr) (addr : Nat) (s : State) :
    outbox (getClient pp addr s).2 = outbox s := by
  unfold getClient
  split <;> rfl

theorem outbox_malloc (w : World) (s : State) : outbox (malloc w s).2 = outbox s :=
  outbox_eq (malloc_sent w s)

theorem outbox_appendCell (w : World) (pp : List Nat) (p : Nat) (s : State) :
    outbox (appendCell w pp p s).2 = outbox s := by
  have hMalloc := outbox_malloc w s
  unfold appendCell
  split <;> rename_i hEq <;> rw [hEq] at hMalloc
  · exact hMalloc
  · split <;> exact hMalloc

theorem outbox_addClient (w : World) (pp : List CliPtr) (new : CliPtr) (s : State) :
    outbox (addClient w pp new s).2 = outbox s := by
  have hGet := outbox_getClient pp (s.cli new).sa.addr s
  unfold addClient
  split <;> rename_i hEq <;> rw [hEq] at hGet
  · exact hGet
  · exact (outbox_appendCell w pp new _).trans hGet

theorem outbox_addDevice (w : World) (pp : List DevPtr) (new : DevPtr) (s : State) :
    outbox (addDevice w pp new s).2 = outbox s := by
  have hGet := outbox_getDevice pp (s.dev new).deviceName s
  unfold addDevice
  split <;> rename_i hEq <;> rw [hEq] at hGet
  · exact hGet
  · exact (outbox_appendCell w pp new _).trans hGet

/-- Finding or entering the sender sends nothing. -/
theorem knownClient_outbox (w : World) (cli : SockAddr) (s : State) :
    outbox (knownClient w cli s).2 = outbox s := by
  have hGet := outbox_getClient s.gClients cli.addr s
  unfold knownClient
  split <;> rename_i hEq <;> rw [hEq] at hGet
  · exact hGet
  · rename_i s₁
    have hMalloc := outbox_malloc w s₁
    split <;> rename_i hEq' <;> rw [hEq'] at hMalloc
    · exact hMalloc.trans hGet
    · rename_i p s₂
      dsimp only
      have hAdd := outbox_addClient w s₂.gClients (freshClient s₂ p)
        { s₂ with cli := Function.update s₂.cli (freshClient s₂ p) ⟨cli, 0, []⟩ }
      split <;> rename_i hEq'' <;> rw [hEq''] at hAdd <;> exact (hAdd.trans hMalloc).trans hGet

/-- **One client message.** Its sender is answered as it is to be, or not at all. -/
theorem processClient_outbox (w : World) (cfg : Config) (cli : SockAddr) (message : CStr)
    (s : State) : outbox (processClient w cfg cli message s).2 = outbox s ∨
      ∃ c s₁ text, asked w cli s = some (c, s₁) ∧ replyText w c message s₁ = some text ∧
        outbox (processClient w cfg cli message s).2 = outbox s ++ [(cli, text)] := by
  have hKnown := knownClient_outbox w cli s
  unfold processClient asked
  rcases hClient : knownClient w cli s with ⟨_ | c, s₁⟩ <;> rw [hClient] at hKnown
  · exact Or.inl hKnown
  · have hUpdate : outbox (updateClient w c cli s₁) = outbox s := hKnown
    have hSa : ((updateClient w c cli s₁).cli c).sa = cli := by simp
    rcases clientRequest_outbox w cfg c message (updateClient w c cli s₁) with h | ⟨text, hText, h⟩
    · exact Or.inl (h.trans hUpdate)
    · rw [hUpdate, hSa] at h
      exact Or.inr ⟨c, _, text, rfl, hText, h⟩

/-- A peer message that makes no call leaves a mark in `errno` only. -/
theorem processPeer_errno (w : World) (cfg : Config) {message : CStr} {s : State}
    (h : peerOp message s = none) : ∃ e, (processPeer w cfg message s).2 = s.setErrno e := by
  unfold peerOp at h
  unfold processPeer
  cases hMsg : peerMessage message with
  | isup name =>
    rcases hGet : getDevice s.gDevices name s with ⟨_ | d, s'⟩
    · exact ⟨.enodev, by simp only [hGet, (getDevice_none hGet).2]⟩
    · simp [hMsg, hGet] at h
  | isdown name =>
    rcases hGet : getDevice s.gDevices name s with ⟨_ | d, s'⟩
    · exact ⟨.enodev, by simp only [hGet, (getDevice_none hGet).2]⟩
    · simp [hMsg, hGet] at h
  | unknown => exact ⟨_, rfl⟩

/-- A notice of the peer is not answered. -/
theorem processPeer_outbox (w : World) (cfg : Config) (message : CStr) (s : State) :
    outbox (processPeer w cfg message s).2 = outbox s := by
  cases hOp : peerOp message s with
  | none =>
    obtain ⟨e, hErrno⟩ := processPeer_errno w cfg hOp
    rw [hErrno]
    rfl
  | some o =>
    rw [processPeer_of_op w cfg hOp]
    exact outbox_eq (op_sent w cfg s o)

/-- The sweep over the devices sends nothing, -/
theorem timeoutOldDevices_outbox (w : World) (cfg : Config) (s : State) :
    outbox (timeoutOldDevices w cfg s).2 = outbox s := by
  refine untilFailure_invariant' (I := fun s' => outbox s' = outbox s) (fun d _ s' h => ?_) s rfl
  refine Eq.trans (outbox_eq ?_) h
  have hRun := alterDeviceStatus_sent w cfg d (advance w s')
  unfold timeoutOldDevice
  split
  · dsimp only
    split
    · rw [unlessFails_done]
      exact hRun .connecting
    · rfl
  · dsimp only
    split
    · rw [unlessFails_done]
      exact hRun .disconnecting
    · rfl
  · rfl
  · rfl

/-- and neither does the sweep over the clients: who expires is not told. -/
theorem timeoutOldClients_outbox (w : World) (cfg : Config) (s : State) :
    outbox (timeoutOldClients w cfg s).2 = outbox s := by
  refine untilFailure_invariant' (I := fun s' => outbox s' = outbox s) (fun c _ s' h => ?_) s rfl
  refine Eq.trans ?_ h
  have hDevices : ∀ s₁ : State, outbox (removeClientFromAllDevices w cfg c s₁).2 = outbox s₁ := by
    intro s₁
    refine untilFailure_invariant' (I := fun s₂ => outbox s₂ = outbox s₁) (fun d _ s₂ h => ?_) s₁ rfl
    rw [removeClientFromDevice_snd]
    exact (outbox_eq (disconnectClientFromDevice_sent w cfg c d s₂)).trans h
  have hDrop : ∀ s₁ : State, outbox (dropClient c s₁).2 = outbox s₁ := by
    intro s₁
    unfold dropClient rmClient
    rw [rmCell_eq]
    by_cases hMem : c ∈ s₁.gClients
    · simp [hMem, outbox]
    · simp [hMem, outbox]
  unfold timeoutOldClient
  dsimp only
  split
  · exact unlessFails_post (I := fun s₂ : State => outbox s₂ = outbox s') (fun _ => hDevices _)
      fun _ => (hDrop _).trans (hDevices _)
  · rfl

end Replies

end LinkControl
