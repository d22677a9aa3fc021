import LinkControl.Server.Messages

/-!
# Link server — requests are received

`process_command` of `server.c`, and the two ways in which requests are sent: with as many
bytes as the text has (`linkDevice.java`), or as a whole buffer with the text in front
(`peer/notify.c`).

`recvfrom ()` fills up to all of `recv_buffer`, and then a NUL is put behind what has come.
A datagram that fills the buffer leaves no room for it: `delivered_iff` says that a request
is delivered intact exactly if it was sent as it is, since what `notify` sends always fills
the buffer. The text is understood in both cases (`branchOf_request`, `request_injective`).
-/

namespace LinkControl

open CString

def maxSendBuffer : Nat := 400
def maxRecvBuffer : Nat := 400

-- ---------------------------------------------------------------------------
-- process_command (server.c)
-- ---------------------------------------------------------------------------

/-- What `recvfrom ()` returns. -/
def recvSize (datagram : CStr) : Nat := min datagram.length maxRecvBuffer

/-- The indices of `recv_buffer` that are written: by `recvfrom ()`, and for the NUL. -/
def writes (datagram : CStr) : List Nat := List.range (recvSize datagram) ++ [recvSize datagram]

/-- The string in `recv_buffer`: it ends at the first NUL. -/
def recvBuffer (datagram : CStr) : CStr :=
  (datagram.take (recvSize datagram)).takeWhile (· ≠ '\x00')

/-- `process_command`; `none` if `recvfrom ()` fails. -/
def processCommand (w : World) (cfg : Config) (received : Option (SockAddr × CStr)) (s : State) :
    Int × State :=
  match received with
  | none => (-1, s)
  | some (cli, datagram) =>
    if strncmpEq (recvBuffer datagram) clientPrefix clientPrefix.length then
      processClient w cfg cli (recvBuffer datagram) s
    else if strncmpEq (recvBuffer datagram) notifyPrefix notifyPrefix.length then
      processPeer w cfg (recvBuffer datagram) s
    else (-1, s.setErrno .enotsup)

/-- The branch of `process_client` or `process_peer` that a message ends up in. -/
inductive Branch where
  | client (message : ClientMessage)
  | peer (message : PeerMessage)
  | invalid
deriving DecidableEq, Repr

/-- The tests of `process_command`, followed by those of the function it calls. -/
def branchOf (message : CStr) : Branch :=
  if strncmpEq message clientPrefix clientPrefix.length then .client (clientMessage message)
  else if strncmpEq message notifyPrefix notifyPrefix.length then .peer (peerMessage message)
  else .invalid

theorem processCommand_eq (w : World) (cfg : Config) (cli : SockAddr) (datagram : CStr)
    (s : State) : processCommand w cfg (some (cli, datagram)) s =
      match branchOf (recvBuffer datagram) with
      | .client _ => processClient w cfg cli (recvBuffer datagram) s
      | .peer _ => processPeer w cfg (recvBuffer datagram) s
      | .invalid => (-1, s.setErrno .enotsup) := by
  unfold processCommand branchOf
  by_cases hClient : strncmpEq (recvBuffer datagram) clientPrefix clientPrefix.length
  · simp [hClient]
  · by_cases hPeer : strncmpEq (recvBuffer datagram) notifyPrefix notifyPrefix.length
    · simp [hClient, hPeer]
    · simp [hClient, hPeer]

-- ---------------------------------------------------------------------------
-- Requests
-- ---------------------------------------------------------------------------

/-- The verbs of the protocol. -/
inductive Verb where
  | ping
  | devices
  | up
  | down
  | forceDown
  | status
  | clientStatus
  | isup
  | isdown
deriving DecidableEq, Repr

/-- The prefix a request starts with. -/
def Verb.text : Verb → CStr
  | .ping => clientPing
  | .devices => clientDevices
  | .up => clientUp
  | .down => clientDown
  | .forceDown => clientForceDown
  | .status => LinkControl.clientStatus
  | .clientStatus => clientClientStatus
  | .isup => notifyIsup
  | .isdown => notifyIsdown

/-- The branch a verb is for, with `dev_str` where it has one. -/
def Verb.branch (name : CStr) : Verb → Branch
  | .ping => .client .ping
  | .devices => .client .devices
  | .up => .client (.up name)
  | .down => .client (.down name)
  | .forceDown => .client (.forceDown name)
  | .status => .client (.status name)
  | .clientStatus => .client .clientStatus
  | .isup => .peer (.isup name)
  | .isdown => .peer (.isdown name)

/-- The verbs that name a device. -/
def Verb.TakesName : Verb → Prop
  | .ping | .devices | .clientStatus => False
  | _ => True

instance (v : Verb) : Decidable v.TakesName := by
  cases v <;> first | exact isTrue trivial | exact isFalse id

/-- A request: prefix and name. -/
def request (v : Verb) (name : CStr) : CStr := v.text ++ name

/-- The `send_buffer` of `notify`, once `strcpy ()` and `strcat ()` have put the text into
what was on the stack. -/
def sendBuffer (stack text : CStr) : CStr := text ++ '\x00' :: stack.drop (text.length + 1)

/-- The datagrams that carry a request. -/
def Carries (v : Verb) (name datagram : CStr) : Prop :=
  datagram = request v name ∨
    ∃ stack, stack.length = maxSendBuffer ∧ datagram = sendBuffer stack (request v name)

/-- **The branch of a request** is the one of its verb, with the name that was given. -/
theorem branchOf_request (v : Verb) (name : CStr) : branchOf (request v name) = v.branch name := by
  cases v <;> rfl

/-- No two requests that name a device have one branch. -/
theorem branch_injective {v v' : Verb} {name name' : CStr} (hv : v.TakesName)
    (h : v.branch name = v'.branch name') : v = v' ∧ name = name' := by
  cases v <;> cases v' <;> simp_all [Verb.branch, Verb.TakesName]

-- ---------------------------------------------------------------------------
-- Datagrams
-- ---------------------------------------------------------------------------

variable {v : Verb} {name datagram : CStr}

theorem nul_not_mem_request (hName : '\x00' ∉ name) : '\x00' ∉ request v name := by
  have hText : '\x00' ∉ v.text := by cases v <;> decide
  rw [request, List.mem_append, not_or]
  exact ⟨hText, hName⟩

/-- A string in a buffer is read up to its NUL. -/
theorem takeWhile_nul {text rest : CStr} (h : '\x00' ∉ text) (hRest : ∀ c ∈ rest.head?, c = '\x00') :
    (text ++ rest).takeWhile (· ≠ '\x00') = text := by
  rw [List.takeWhile_append_of_pos]
  · cases rest with
    | nil => simp
    | cons c rest =>
      rw [hRest c rfl]
      simp
  · intro c hc
    rw [decide_eq_true_iff]
    rintro rfl
    exact h hc

theorem length_sendBuffer {stack text : CStr} (hStack : stack.length = maxSendBuffer)
    (h : text.length < maxSendBuffer) : (sendBuffer stack text).length = maxSendBuffer := by
  rw [sendBuffer, List.length_append, List.length_cons, List.length_drop]
  omega

/-- **The text arrives**, either way it was sent. -/
theorem recvBuffer_of_carries (hName : '\x00' ∉ name) (hLength : (request v name).length ≤ 398)
    (h : Carries v name datagram) : recvBuffer datagram = request v name := by
  have hNul := nul_not_mem_request (v := v) hName
  have hSend : maxSendBuffer = 400 := rfl
  have hRecv : maxRecvBuffer = 400 := rfl
  rcases h with rfl | ⟨stack, hStack, rfl⟩
  · have hSize : recvSize (request v name) = (request v name).length := by
      rw [recvSize]
      omega
    have hRead : (request v name ++ []).takeWhile (· ≠ '\x00') = request v name :=
      takeWhile_nul hNul (by simp)
    rw [List.append_nil] at hRead
    rw [recvBuffer, hSize, List.take_length, hRead]
  · have hSize : recvSize (sendBuffer stack (request v name)) =
        (sendBuffer stack (request v name)).length := by
      rw [recvSize, length_sendBuffer hStack (by omega)]
      omega
    rw [recvBuffer, hSize, List.take_length, sendBuffer]
    exact takeWhile_nul hNul (by simp)

/-- The NUL has a place behind the datagram as long as that does not fill the buffer. -/
theorem writes_iff : (∀ i ∈ writes datagram, i < maxRecvBuffer) ↔
    datagram.length < maxRecvBuffer := by
  have hMem : recvSize datagram ∈ writes datagram := by simp [writes]
  constructor
  · intro h
    have hLast := h _ hMem
    unfold recvSize at hLast
    omega
  · intro h i hi
    simp only [writes, List.mem_append, List.mem_range, List.mem_singleton] at hi
    unfold recvSize at hi
    omega

/-- What the protocol promises about a request in a datagram: nothing is written outside of
the buffer, the branch is the right one, and no other request that names a device, in any
datagram that carries it, is treated alike. -/
structure Delivered (v : Verb) (name datagram : CStr) : Prop where
  bounds : ∀ i ∈ writes datagram, i < maxRecvBuffer
  branch : branchOf (recvBuffer datagram) = v.branch name
  alone : v.TakesName → ∀ v' name' datagram', '\x00' ∉ name' → (request v' name').length ≤ 398 →
    Carries v' name' datagram' →
    branchOf (recvBuffer datagram') = branchOf (recvBuffer datagram) → v' = v ∧ name' = name

/-- **Requests are delivered intact** exactly if they are sent with their exact length. -/
theorem delivered_iff (v : Verb) (name datagram : CStr) (hName : '\x00' ∉ name)
    (hLength : (request v name).length ≤ 398) (h : Carries v name datagram) :
    Delivered v name datagram ↔ datagram = request v name := by
  have hBranch : branchOf (recvBuffer datagram) = v.branch name := by
    rw [recvBuffer_of_carries hName hLength h, branchOf_request]
  have hSend : maxSendBuffer = 400 := rfl
  have hRecv : maxRecvBuffer = 400 := rfl
  constructor
  · intro hDelivered
    rcases h with h | ⟨stack, hStack, rfl⟩
    · exact h
    · have hFull := length_sendBuffer hStack (show (request v name).length < _ by omega)
      have hRoom := writes_iff.mp hDelivered.bounds
      omega
  · intro hExact
    refine ⟨writes_iff.mpr ?_, hBranch, fun hv v' name' datagram' hName' hLength' h' hSame => ?_⟩
    · rw [hExact]
      omega
    · rw [hBranch, recvBuffer_of_carries hName' hLength' h', branchOf_request] at hSame
      obtain ⟨hVerb, hSameName⟩ := branch_injective hv hSame.symm
      exact ⟨hVerb.symm, hSameName.symm⟩

/-- A client sends `UP` for `ppp0`. -/
theorem delivered_up : Delivered .up "ppp0".toList "CLIENT UP ppp0".toList ↔
    "CLIENT UP ppp0".toList = request .up "ppp0".toList :=
  delivered_iff .up "ppp0".toList "CLIENT UP ppp0".toList (by decide) (by decide) (Or.inl rfl)

/-- The buffer of `notify`, on a stack of zeros. -/
def notifyBuffer : CStr :=
  sendBuffer (List.replicate maxSendBuffer '\x00') (request .isup "ppp0".toList)

/-- What `notify` sends for `ppp0` makes the server write behind its buffer. -/
theorem notify_not_delivered : Carries .isup "ppp0".toList notifyBuffer ∧
    maxRecvBuffer ∈ writes notifyBuffer ∧ ¬ Delivered .isup "ppp0".toList notifyBuffer := by
  have hMem : maxRecvBuffer ∈ writes notifyBuffer := by decide +kernel
  refine ⟨Or.inr ⟨_, List.length_replicate .., rfl⟩, hMem, fun hDelivered => ?_⟩
  exact absurd (hDelivered.bounds _ hMem) (Nat.lt_irrefl _)

end LinkControl
