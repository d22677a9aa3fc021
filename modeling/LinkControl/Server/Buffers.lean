import LinkControl.Lib.Buffer
import LinkControl.Server.Broadcast

/-!
# Link server — the buffers of the replies

The five functions that build a text once more, now with the blocks they build it in and the
sizes they give them: `print_device_status`, `send_device_status`, `send_device_list`,
`send_client_status` and `broadcast_status_message`. The result is `none` as soon as something
is written out of bounds.

As long as that does not happen, they do what their namesakes without buffers do
(`printDeviceStatus_eq` and so on). Two of them size a block before they know what goes into
it; `builders_in_bounds_iff` says when they are right.
-/

namespace LinkControl.Buffered

open CBuffer

-- ---------------------------------------------------------------------------
-- The functions
-- ---------------------------------------------------------------------------

/-- A number converted to `size_t`. -/
def sizeT (n : Int) : Nat := (n % 18446744073709551616).toNat

/-- The size of the block in `print_device_status`. -/
def printSize (deviceName : CStr) (status : DeviceStatus) : Nat :=
  let maxStrLen := toInt (deviceName.length + (gLinkStatusMessage status).length + 2)
  sizeT maxStrLen

/-- `print_device_status`; the 20 characters of `params` are on the stack. -/
def printDeviceStatus (w : World) (device : DevPtr) (s : State) :
    Option (Option (Buffer Char) × State) :=
  match malloc w s with
  | (none, s) => some (none, s)
  | (some _, s) => do
    let deviceName := (s.dev device).deviceName
    let status := (s.dev device).status
    let devStr ← (write (printSize deviceName status) deviceName).bind
      (strcat (gLinkStatusMessage status))
    if (s.dev device).status = .up then
      let s := advance w s
      let params ← write 20 (decimal (toInt (s.clock - (s.dev device).connectTime)) ++ [' '] ++
        decimal (toInt (s.dev device).clientsConnected.length))
      match malloc w s with
      | (none, s) => some (none, s)
      | (some _, s) => do
        let devStr ← (realloc (devStr.contents.length + params.contents.length + 1) devStr).bind
          (strcat params.contents)
        some (some devStr, s)
    else some (some devStr, s)

/-- The size of the block in `send_device_status`. -/
def sendSize (deviceName : CStr) : Nat :=
  let maxStrLen := toInt (serverStatusPrefix.length + serverStatusDisconnecting.length +
    deviceName.length + 4)
  sizeT maxStrLen

/-- `send_device_status` -/
def sendDeviceStatus (w : World) (client : CliPtr) (device : DevPtr) (s : State) :
    Option (Int × State) :=
  let size := sendSize (s.dev device).deviceName
  match malloc w s with
  | (none, s) => some (-1, s)
  | (some _, s) => do
    match ← printDeviceStatus w device s with
    | (none, s) => some (-1, s)
    | (some devStat, s) => do
      let devStr ← (write size serverStatusPrefix).bind (strcat devStat.contents)
      some (sendReply w client devStr.contents s)

/-- The loop of `send_device_list`. -/
def appendDevices (w : World) : List DevPtr → Buffer Char → State →
    Option (Option (Buffer Char) × State)
  | [], devStr, s => some (some devStr, s)
  | d :: rest, devStr, s =>
    match (s.dev d).deviceDescription with
    | none => some (none, { s with crashed := true })
    | some description =>
      match malloc w s with
      | (none, s) => some (none, s)
      | (some _, s) => do
        let newLen := (s.dev d).deviceName.length + description.length + devStr.contents.length + 4
        let devStr ← (realloc newLen devStr).bind (strcat (s.dev d).deviceName)
        let devStr ← (strcat ['\t'] devStr).bind (strcat description)
        let devStr ← strcat ['\n'] devStr
        appendDevices w rest devStr s

/-- `send_device_list` -/
def sendDeviceList (w : World) (client : CliPtr) (s : State) : Option (Int × State) :=
  match malloc w s with
  | (none, s) => some (-1, s)
  | (some _, s) => do
    let devStr ← write (serverDevices.length + 1) serverDevices
    match ← appendDevices w s.gDevices devStr s with
    | (none, s) => some (-1, s)
    | (some devStr, s) => some (sendReply w client devStr.contents s)

/-- The loop of `send_client_status`. -/
def appendNames (w : World) : List DevPtr → Buffer Char → State →
    Option (Option (Buffer Char) × State)
  | [], devStr, s => some (some devStr, s)
  | d :: rest, devStr, s =>
    match malloc w s with
    | (none, s) => some (none, s)
    | (some _, s) => do
      let newLen := (s.dev d).deviceName.length + devStr.contents.length + 3
      let devStr ← (realloc newLen devStr).bind (strcat ['\t'])
      let devStr ← strcat (s.dev d).deviceName devStr
      appendNames w rest devStr s

/-- `send_client_status` -/
def sendClientStatus (w : World) (client : CliPtr) (s : State) : Option (Int × State) :=
  match malloc w s with
  | (none, s) => some (-1, s)
  | (some _, s) => do
    let devStr ← write (serverClientStatus.length + 1) serverClientStatus
    match (s.cli client).devicesConnected with
    | [] => some (sendReply w client devStr.contents s)
    | d :: rest =>
      match malloc w s with
      | (none, s) => some (-1, s)
      | (some _, s) => do
        let devStr ← (realloc (devStr.contents.length + (s.dev d).deviceName.length + 1) devStr).bind
          (strcat (s.dev d).deviceName)
        match ← appendNames w rest devStr s with
        | (none, s) => some (-1, s)
        | (some devStr, s) => some (sendReply w client devStr.contents s)

/-- The loop of `broadcast_status_message`. -/
def appendStatuses (w : World) : List DevPtr → Buffer Char → State →
    Option (Option (Buffer Char) × State)
  | [], message, s => some (some message, s)
  | d :: rest, message, s => do
    match ← printDeviceStatus w d s with
    | (none, s) => some (none, s)
    | (some devStat, s) =>
      match malloc w s with
      | (none, s) => some (none, s)
      | (some _, s) => do
        let newLen := message.contents.length + devStat.contents.length + 2
        let message ← (realloc newLen message).bind (strcat devStat.contents)
        let message ← strcat ['\n'] message
        appendStatuses w rest message s

/-- `broadcast_status_message` -/
def broadcastStatusMessage (w : World) (group : Option SockAddr) (s : State) :
    Option (Int × State) :=
  match malloc w s with
  | (none, s) => some (-1, s)
  | (some _, s) => do
    let message ← write (broadcastStatus.length + 1) broadcastStatus
    match ← appendStatuses w s.gDevices message s with
    | (none, s) => some (-1, s)
    | (some message, s) => some (broadcastMessage w group message.contents s)

-- ---------------------------------------------------------------------------
-- When there is room
-- ---------------------------------------------------------------------------

/-- A report that `print_device_status` has room for: the block holds the name and the word,
its size having been an `int`, and `params` holds the numbers, which come behind a blank. -/
def PrintFits (r : Report) : Prop :=
  (r.name ++ gLinkStatusMessage r.status).length < printSize r.name r.status ∧
    r.numbers.length ≤ 20

/-- A report that `send_device_status` has room for. -/
def SendFits (r : Report) : Prop :=
  (serverStatusPrefix ++ (r.name ++ ['\t'] ++ statusWord r.status ++ r.numbers)).length <
    sendSize r.name

instance (r : Report) : Decidable (PrintFits r) := inferInstanceAs (Decidable (_ ∧ _))

instance (r : Report) : Decidable (SendFits r) := inferInstanceAs (Decidable (_ < _))

variable {w : World} {s s' : State} {d : DevPtr}

theorem sizeT_toInt {n : Nat} (h : n < 2147483648) : sizeT (toInt n) = n := by
  unfold sizeT toInt
  rw [Int.bmod_def]
  omega

/-- With a name of a size that is not beyond belief, only the numbers count. -/
theorem printFits_iff {r : Report} (hName : r.name.length < 2000000000) :
    PrintFits r ↔ r.numbers.length ≤ 20 := by
  have hWord : (gLinkStatusMessage r.status).length ≤ 14 := by cases r.status <;> decide
  have hSize := sizeT_toInt (n := r.name.length + (gLinkStatusMessage r.status).length + 2) (by omega)
  have hRoom : (r.name ++ gLinkStatusMessage r.status).length < printSize r.name r.status := by
    unfold printSize
    push_cast at hSize
    rw [hSize, List.length_append]
    omega
  exact and_iff_right hRoom

theorem sendFits_iff {r : Report} (hName : r.name.length < 2000000000) :
    SendFits r ↔ r.numbers.length ≤ 14 := by
  have hSize := sizeT_toInt (n := serverStatusPrefix.length + serverStatusDisconnecting.length +
    r.name.length + 4) (by rw [show serverStatusPrefix.length = 14 from rfl,
      show serverStatusDisconnecting.length = 14 from rfl]; omega)
  push_cast at hSize
  unfold SendFits sendSize
  rw [hSize]
  simp only [List.length_append, List.length_singleton]
  rw [show serverStatusPrefix.length = 14 from rfl,
    show serverStatusDisconnecting.length = 14 from rfl]
  by_cases hUp : r.status = .up
  · rw [hUp, show (statusWord .up).length = 2 from rfl]
    omega
  · have hNumbers : r.numbers = [] := if_neg hUp
    have hWord : (statusWord r.status).length ≤ 13 := by cases r.status <;> decide
    rw [hNumbers, List.length_nil]
    omega

-- ---------------------------------------------------------------------------
-- print_device_status
-- ---------------------------------------------------------------------------

/-- A built text, without its buffer. -/
def text (r : Option (Buffer Char) × State) : Option CStr × State :=
  (r.1.map Buffer.contents, r.2)

theorem malloc_of_none (h : w.malloc s.mallocs = none) :
    malloc w s = (none, { s with mallocs := s.mallocs + 1, errno := .enomem }) := by
  unfold malloc
  rw [h]

theorem malloc_of_some {p : Nat} (h : w.malloc s.mallocs = some p) :
    malloc w s = (some p, { s with mallocs := s.mallocs + 1 }) := by
  unfold malloc
  rw [h]

/-- The state after an allocation, as far as the functions look at it. -/
theorem malloc_succeeds {p : Nat} (h : w.malloc s.mallocs = some p) :
    ∃ s₁, malloc w s = (some p, s₁) ∧ s₁.mallocs = s.mallocs + 1 ∧ s₁.dev = s.dev ∧
      s₁.gDevices = s.gDevices ∧ ∀ d, report w d s₁ = report w d s :=
  ⟨_, malloc_of_some h, rfl, rfl, rfl, fun _ => rfl⟩

/-- `params` has room for what comes behind the blank. -/
theorem numbers_length (hUp : (s.dev d).status = .up) :
    (report w d s).numbers.length ≤ 20 ↔
      (decimal (toInt ((advance w s).clock - (s.dev d).connectTime)) ++ [' '] ++
        decimal (toInt (s.dev d).clientsConnected.length)).length < 20 := by
  have hNumbers : (report w d s).numbers =
      [' '] ++ decimal (toInt ((advance w s).clock - (s.dev d).connectTime)) ++ [' '] ++
        decimal (toInt (s.dev d).clientsConnected.length) := by
    unfold report reportAt Report.numbers
    rw [if_pos hUp, if_pos hUp]
  rw [hNumbers]
  simp only [List.length_append, List.length_singleton]
  omega

/-- **`print_device_status`** is in bounds if memory is out at once or the report fits, and
then prints the text. -/
theorem printDeviceStatus_eq (w : World) (d : DevPtr) (s : State) :
    (printDeviceStatus w d s).map text =
      if w.malloc s.mallocs = none ∨ PrintFits (report w d s) then
        some (LinkControl.printDeviceStatus w d s)
      else none := by
  unfold printDeviceStatus LinkControl.printDeviceStatus
  cases hFirst : w.malloc s.mallocs with
  | none =>
    rw [malloc_of_none hFirst, if_pos (Or.inl rfl)]
    rfl
  | some p =>
    obtain ⟨s₁, hMalloc, -, -, -, hReport⟩ := malloc_succeeds hFirst
    rw [hMalloc, ← hReport d]
    simp only [reduceCtorEq, false_or]
    rw [write_bind_strcat]
    by_cases hRoom : ((s₁.dev d).deviceName ++ gLinkStatusMessage (s₁.dev d).status).length <
      printSize (s₁.dev d).deviceName (s₁.dev d).status
    · rw [write_of_lt hRoom]
      dsimp only [Option.bind_eq_bind, Option.bind_some]
      by_cases hUp : (s₁.dev d).status = .up
      · rw [if_pos hUp, if_pos hUp, advance_dev]
        by_cases hParams : (decimal (toInt ((advance w s₁).clock - (s₁.dev d).connectTime)) ++ [' '] ++
          decimal (toInt (s₁.dev d).clientsConnected.length)).length < 20
        · have hFits : PrintFits (report w d s₁) := ⟨hRoom, (numbers_length hUp).mpr hParams⟩
          rw [write_of_lt hParams, if_pos hFits]
          dsimp only [Option.bind_some]
          rcases malloc w (advance w s₁) with ⟨_ | q, s₂⟩
          · rfl
          · dsimp only
            rw [realloc_bind_strcat (by exact Nat.lt_succ_self _)]
            rfl
        · have hNot : ¬ PrintFits (report w d s₁) := fun h => hParams ((numbers_length hUp).mp h.2)
          rw [write_eq_none hParams, if_neg hNot]
          rfl
      · have hNumbers : (report w d s₁).numbers = [] := if_neg hUp
        have hFits : PrintFits (report w d s₁) := ⟨hRoom, by rw [hNumbers]; exact Nat.zero_le _⟩
        rw [if_neg hUp, if_neg hUp, if_pos hFits]
        rfl
    · have hNot : ¬ PrintFits (report w d s₁) := fun h => hRoom h.1
      rw [write_eq_none hRoom, if_neg hNot]
      rfl

/-- The text is not there if one of the allocations fails, the second of which is made for a
device that is up. -/
theorem printDeviceStatus_none_iff : (LinkControl.printDeviceStatus w d s).1 = none ↔
    w.malloc s.mallocs = none ∨
      ((s.dev d).status = .up ∧ w.malloc (s.mallocs + 1) = none) := by
  unfold LinkControl.printDeviceStatus
  cases hFirst : w.malloc s.mallocs with
  | none =>
    rw [malloc_of_none hFirst]
    simp
  | some p =>
    rw [malloc_of_some hFirst]
    by_cases hUp : (s.dev d).status = .up
    · simp only [hUp, if_true, reduceCtorEq, false_or, true_and]
      cases hSecond : w.malloc (s.mallocs + 1) with
      | none => rw [malloc_of_none (by exact hSecond)]; simp
      | some q => rw [malloc_of_some (by exact hSecond)]; simp
    · simp [hUp]

-- ---------------------------------------------------------------------------
-- send_device_status
-- ---------------------------------------------------------------------------

/-- `send_device_status` stays in bounds if memory is out before there is a text, or the
report fits the text and memory is out then, or it fits both blocks. -/
def SendInBounds (w : World) (d : DevPtr) (s : State) : Prop :=
  w.malloc s.mallocs = none ∨ w.malloc (s.mallocs + 1) = none ∨
    (PrintFits (report w d s) ∧
      (((s.dev d).status = .up ∧ w.malloc (s.mallocs + 2) = none) ∨ SendFits (report w d s)))

instance (w : World) (d : DevPtr) (s : State) : Decidable (SendInBounds w d s) :=
  inferInstanceAs (Decidable (_ ∨ _ ∨ _))

/-- The whole of a text comes from the report. -/
theorem devStat_eq {devStat : CStr} (h : LinkControl.printDeviceStatus w d s = (some devStat, s')) :
    devStat = (report w d s).name ++ ['\t'] ++ statusWord (report w d s).status ++
      (report w d s).numbers := by
  have hText := printDeviceStatus_text h
  have hSame : report w d (malloc w s).2 = report w d s := by
    unfold malloc
    split <;> rfl
  rw [hSame] at hText
  exact List.append_cancel_right hText

/-- **`send_device_status`** -/
theorem sendDeviceStatus_eq (w : World) (client : CliPtr) (d : DevPtr) (s : State) :
    sendDeviceStatus w client d s =
      if SendInBounds w d s then some (LinkControl.sendDeviceStatus w client d s) else none := by
  unfold sendDeviceStatus LinkControl.sendDeviceStatus
  obtain ⟨size, hSize⟩ : ∃ size, size = sendSize (s.dev d).deviceName := ⟨_, rfl⟩
  rw [← hSize]
  cases hFirst : w.malloc s.mallocs with
  | none =>
    have hIn : SendInBounds w d s := Or.inl hFirst
    rw [malloc_of_none hFirst, if_pos hIn]
  | some p =>
    obtain ⟨s₁, hMalloc, hMallocs, hDev, -, hReport⟩ := malloc_succeeds hFirst
    have hPrint := printDeviceStatus_eq w d s₁
    rw [hMallocs, hReport] at hPrint
    have hBounds : SendInBounds w d s ↔ w.malloc (s.mallocs + 1) = none ∨
        (PrintFits (report w d s) ∧
          (((s.dev d).status = .up ∧ w.malloc (s.mallocs + 2) = none) ∨ SendFits (report w d s))) :=
      or_iff_right (by simp [hFirst])
    rw [hMalloc]
    dsimp only [Option.bind_eq_bind]
    by_cases hText : w.malloc (s.mallocs + 1) = none ∨ PrintFits (report w d s)
    · rw [if_pos hText] at hPrint
      obtain ⟨⟨devStat, s₂⟩, hBuffered, hSame⟩ := Option.map_eq_some_iff.mp hPrint
      rw [hBuffered, ← hSame]
      cases devStat with
      | none =>
        have hNone := printDeviceStatus_none_iff.mp (congrArg Prod.fst hSame.symm)
        rw [hMallocs, hDev] at hNone
        have hIn : SendInBounds w d s := by
          rw [hBounds]
          rcases hNone with hNone | hNone
          · exact Or.inl hNone
          · exact hText.imp_right fun hFits => ⟨hFits, Or.inl hNone⟩
        rw [if_pos hIn]
        rfl
      | some devStat =>
        have hSome : ¬ (w.malloc (s.mallocs + 1) = none ∨
            ((s.dev d).status = .up ∧ w.malloc (s.mallocs + 2) = none)) := by
          have hNone := mt printDeviceStatus_none_iff.mpr (by rw [← hSame]; simp [text] :
            (LinkControl.printDeviceStatus w d s₁).1 ≠ none)
          rwa [hMallocs, hDev] at hNone
        obtain ⟨hSome, hMore⟩ := not_or.mp hSome
        have hIn : SendInBounds w d s ↔ SendFits (report w d s) := by
          rw [hBounds, or_iff_right hSome, or_iff_right hMore,
            and_iff_right (hText.resolve_left hSome)]
        have hContents := devStat_eq hSame.symm
        rw [hReport] at hContents
        by_cases hFits : SendFits (report w d s)
        · have hRoom : (serverStatusPrefix ++ devStat.contents).length < size := by
            rw [hContents, hSize]
            exact hFits
          rw [if_pos (hIn.mpr hFits)]
          simp only [Option.bind_some, write_bind_strcat, write_of_lt hRoom, text, Option.map_some]
        · have hNoRoom : ¬ (serverStatusPrefix ++ devStat.contents).length < size := by
            rw [hContents, hSize]
            exact hFits
          rw [if_neg (mt hIn.mp hFits)]
          simp only [Option.bind_some, write_bind_strcat, write_eq_none hNoRoom, Option.bind_none]
    · rw [if_neg hText] at hPrint
      have hOut : ¬ SendInBounds w d s := by
        rw [hBounds]
        exact fun h => hText (h.imp_right And.left)
      rw [if_neg hOut, Option.map_eq_none_iff.mp hPrint]
      rfl

-- ---------------------------------------------------------------------------
-- The lists
-- ---------------------------------------------------------------------------

/-- The loop of **`send_device_list`** grows the block for every device. -/
theorem appendDevices_eq (w : World) (ds : List DevPtr) (b : Buffer Char) (s : State) :
    (appendDevices w ds b s).map text = some (LinkControl.appendDevices w ds b.contents s) := by
  induction ds generalizing b s with
  | nil => rfl
  | cons d rest ih =>
    unfold appendDevices LinkControl.appendDevices
    cases (s.dev d).deviceDescription with
    | none => rfl
    | some description =>
      rcases malloc w s with ⟨_ | p, s₁⟩
      · rfl
      · dsimp only [Option.bind_eq_bind]
        rw [realloc_bind_strcat (by omega)]
        dsimp only [Option.bind_some]
        rw [strcat_of_lt (by simp only [List.length_append, List.length_singleton]; omega)]
        dsimp only [Option.bind_some]
        rw [strcat_of_lt (by simp only [List.length_append, List.length_singleton]; omega)]
        dsimp only [Option.bind_some]
        rw [strcat_of_lt (by simp only [List.length_append, List.length_singleton]; omega)]
        dsimp only [Option.bind_some]
        rw [ih]

/-- **`send_device_list`** -/
theorem sendDeviceList_eq (w : World) (client : CliPtr) (s : State) :
    sendDeviceList w client s = some (LinkControl.sendDeviceList w client s) := by
  unfold sendDeviceList LinkControl.sendDeviceList
  rcases malloc w s with ⟨_ | p, s₁⟩
  · rfl
  · dsimp only [Option.bind_eq_bind]
    rw [write_of_lt (Nat.lt_succ_self _)]
    dsimp only [Option.bind_some]
    have hLoop := appendDevices_eq w s₁.gDevices
      ⟨serverDevices.length + 1, serverDevices, Nat.lt_succ_self _⟩ s₁
    obtain ⟨⟨devStr, s₂⟩, hBuffered, hSame⟩ := Option.map_eq_some_iff.mp hLoop
    rw [hBuffered, ← hSame]
    cases devStr <;> rfl

/-- The loop of **`send_client_status`** grows the block for every device. -/
theorem appendNames_eq (w : World) (ds : List DevPtr) (b : Buffer Char) (s : State) :
    (appendNames w ds b s).map text = some (LinkControl.appendNames w ds b.contents s) := by
  induction ds generalizing b s with
  | nil => rfl
  | cons d rest ih =>
    unfold appendNames LinkControl.appendNames
    rcases malloc w s with ⟨_ | p, s₁⟩
    · rfl
    · dsimp only [Option.bind_eq_bind]
      rw [realloc_bind_strcat (by simp only [List.length_singleton]; omega)]
      dsimp only [Option.bind_some]
      rw [strcat_of_lt (by simp only [List.length_append, List.length_singleton]; omega)]
      dsimp only [Option.bind_some]
      rw [ih]

/-- **`send_client_status`** -/
theorem sendClientStatus_eq (w : World) (client : CliPtr) (s : State) :
    sendClientStatus w client s = some (LinkControl.sendClientStatus w client s) := by
  unfold sendClientStatus LinkControl.sendClientStatus
  rcases malloc w s with ⟨_ | p, s₁⟩
  · rfl
  · dsimp only [Option.bind_eq_bind]
    rw [write_of_lt (Nat.lt_succ_self _)]
    dsimp only [Option.bind_some]
    cases (s₁.cli client).devicesConnected with
    | nil => rfl
    | cons d rest =>
      rcases malloc w s₁ with ⟨_ | q, s₂⟩
      · rfl
      · dsimp only
        rw [realloc_bind_strcat (by exact Nat.lt_succ_self _)]
        dsimp only [Option.bind_some]
        have hLoop := appendNames_eq w rest
          ⟨serverClientStatus.length + (s₂.dev d).deviceName.length + 1,
            serverClientStatus ++ (s₂.dev d).deviceName, by rw [List.length_append]; omega⟩ s₂
        obtain ⟨⟨devStr, s₃⟩, hBuffered, hSame⟩ := Option.map_eq_some_iff.mp hLoop
        rw [hBuffered, ← hSame]
        cases devStr <;> rfl

-- ---------------------------------------------------------------------------
-- broadcast_status_message
-- ---------------------------------------------------------------------------

/-- The reports that the loop of `broadcast_status_message` comes to before memory is out: two
blocks are asked for a device, and three for a device that is up, which also takes a look at the
clock. -/
def reached (w : World) : List DevPtr → State → List Report
  | [], _ => []
  | d :: rest, s =>
    if w.malloc s.mallocs = none then []
    else report w d s ::
      if (s.dev d).status = .up then
        if w.malloc (s.mallocs + 1) = none ∨ w.malloc (s.mallocs + 2) = none then []
        else reached w rest { advance w s with mallocs := s.mallocs + 3 }
      else if w.malloc (s.mallocs + 1) = none then []
      else reached w rest { s with mallocs := s.mallocs + 2 }

/-- One round, as the functions make it. -/
theorem reached_cons (w : World) (d : DevPtr) (rest : List DevPtr) (s : State) :
    reached w (d :: rest) s = match w.malloc s.mallocs, LinkControl.printDeviceStatus w d s with
      | none, _ => []
      | some _, (none, _) => [report w d s]
      | some _, (some _, s₁) =>
        match malloc w s₁ with
        | (none, _) => [report w d s]
        | (some _, s₂) => report w d s :: reached w rest s₂ := by
  rw [reached]
  unfold LinkControl.printDeviceStatus malloc
  cases hFirst : w.malloc s.mallocs with
  | none => rfl
  | some p =>
    by_cases hUp : (s.dev d).status = .up
    · cases hSecond : w.malloc (s.mallocs + 1) with
      | none => simp [hUp, hSecond]
      | some q => cases hThird : w.malloc (s.mallocs + 2) <;> simp [hUp, hSecond, hThird, advance]
    · cases hSecond : w.malloc (s.mallocs + 1) <;> simp [hUp, hSecond]

/-- The loop of **`broadcast_status_message`** grows the block for every device. -/
theorem appendStatuses_eq (w : World) (ds : List DevPtr) (b : Buffer Char) (s : State) :
    (appendStatuses w ds b s).map text =
      if ∀ r ∈ reached w ds s, PrintFits r then
        some (LinkControl.appendStatuses w ds b.contents s)
      else none := by
  induction ds generalizing b s with
  | nil =>
    rw [if_pos (by simp [reached])]
    rfl
  | cons d rest ih =>
    have hPrint := printDeviceStatus_eq w d s
    unfold appendStatuses LinkControl.appendStatuses
    cases hFirst : w.malloc s.mallocs with
    | none =>
      rw [if_pos (Or.inl hFirst)] at hPrint
      obtain ⟨⟨devStat, s₁⟩, hBuffered, hSame⟩ := Option.map_eq_some_iff.mp hPrint
      have hNone := printDeviceStatus_none_iff.mpr (Or.inl hFirst : w.malloc s.mallocs = none ∨
        ((s.dev d).status = .up ∧ w.malloc (s.mallocs + 1) = none))
      have hReached : reached w (d :: rest) s = [] := by simp only [reached_cons, hFirst]
      rw [← hSame] at hNone
      obtain rfl := Option.map_eq_none_iff.mp hNone
      rw [hReached, hBuffered, ← hSame, if_pos (by simp)]
      rfl
    | some p =>
      by_cases hFits : PrintFits (report w d s)
      · rw [if_pos (Or.inr hFits)] at hPrint
        obtain ⟨⟨devStat, s₁⟩, hBuffered, hSame⟩ := Option.map_eq_some_iff.mp hPrint
        have hOne : ∀ r ∈ [report w d s], PrintFits r := by simpa using hFits
        rw [hBuffered]
        cases devStat with
        | none =>
          have hReached : reached w (d :: rest) s = [report w d s] := by
            simp only [reached_cons, hFirst, ← hSame, text, Option.map_none]
          rw [hReached, if_pos hOne, ← hSame]
          rfl
        | some devStat =>
          rw [← hSame]
          dsimp only [Option.bind_eq_bind, Option.bind_some, text, Option.map_some]
          rcases hMalloc : malloc w s₁ with ⟨_ | q, s₂⟩
          · have hReached : reached w (d :: rest) s = [report w d s] := by
              simp only [reached_cons, hFirst, ← hSame, text, Option.map_some, hMalloc]
            rw [hReached, if_pos hOne]
            rfl
          · have hReached : reached w (d :: rest) s = report w d s :: reached w rest s₂ := by
              simp only [reached_cons, hFirst, ← hSame, text, Option.map_some, hMalloc]
            dsimp only
            rw [realloc_bind_strcat (by omega)]
            dsimp only [Option.bind_some]
            rw [strcat_of_lt (by simp only [List.length_append, List.length_singleton]; omega)]
            dsimp only [Option.bind_some]
            rw [ih, hReached]
            simp only [List.forall_mem_cons, hFits, true_and]
      · have hNotEither : ¬ (w.malloc s.mallocs = none ∨ PrintFits (report w d s)) := by
          simp [hFirst, hFits]
        have hMem : report w d s ∈ reached w (d :: rest) s := by
          simp only [reached_cons, hFirst]
          split
          · contradiction
          · exact List.mem_cons_self ..
          · split <;> exact List.mem_cons_self ..
        rw [if_neg hNotEither] at hPrint
        rw [Option.map_eq_none_iff.mp hPrint, if_neg fun hAll => hFits (hAll _ hMem)]
        rfl

/-- **`broadcast_status_message`** -/
theorem broadcastStatusMessage_eq (w : World) (group : Option SockAddr) (s : State) :
    broadcastStatusMessage w group s =
      if w.malloc s.mallocs = none ∨ ∀ r ∈ reached w s.gDevices (malloc w s).2, PrintFits r then
        some (LinkControl.broadcastStatusMessage w group s)
      else none := by
  unfold broadcastStatusMessage LinkControl.broadcastStatusMessage statusMessage
  cases hFirst : w.malloc s.mallocs with
  | none =>
    rw [malloc_of_none hFirst, if_pos (Or.inl rfl)]
  | some p =>
    obtain ⟨s₁, hMalloc, -, -, hDevices, -⟩ := malloc_succeeds hFirst
    rw [hMalloc]
    simp only [reduceCtorEq, false_or, Option.bind_eq_bind]
    rw [write_of_lt (Nat.lt_succ_self _)]
    dsimp only [Option.bind_some]
    have hLoop := appendStatuses_eq w s₁.gDevices
      ⟨broadcastStatus.length + 1, broadcastStatus, Nat.lt_succ_self _⟩ s₁
    rw [← hDevices]
    by_cases hFits : ∀ r ∈ reached w s₁.gDevices s₁, PrintFits r
    · rw [if_pos hFits] at hLoop
      obtain ⟨⟨message, s₂⟩, hBuffered, hSame⟩ := Option.map_eq_some_iff.mp hLoop
      rw [hBuffered, if_pos hFits, ← hSame]
      cases message <;> rfl
    · rw [if_neg hFits] at hLoop
      rw [Option.map_eq_none_iff.mp hLoop, if_neg hFits]
      rfl

-- ---------------------------------------------------------------------------
-- All of them
-- ---------------------------------------------------------------------------

/-- Nothing is written out of bounds, whichever of the five functions is called. -/
structure InBounds (w : World) (group : Option SockAddr) (client : CliPtr) (d : DevPtr)
    (s : State) : Prop where
  printDeviceStatus : (printDeviceStatus w d s).isSome
  sendDeviceStatus : (sendDeviceStatus w client d s).isSome
  sendDeviceList : (sendDeviceList w client s).isSome
  sendClientStatus : (sendClientStatus w client s).isSome
  broadcastStatusMessage : (broadcastStatusMessage w group s).isSome

/-- **The buffers are large enough** exactly if the report of the device fits
`print_device_status` and `send_device_status`, and the reports that
`broadcast_status_message` comes to fit `print_device_status`, each unless memory is out before. -/
theorem in_bounds_iff (w : World) (group : Option SockAddr) (client : CliPtr) (d : DevPtr)
    (s : State) : InBounds w group client d s ↔
      (w.malloc s.mallocs = none ∨ PrintFits (report w d s)) ∧ SendInBounds w d s ∧
      (w.malloc s.mallocs = none ∨ ∀ r ∈ reached w s.gDevices (malloc w s).2, PrintFits r) := by
  have hPrint : (printDeviceStatus w d s).isSome ↔
      w.malloc s.mallocs = none ∨ PrintFits (report w d s) := by
    rw [← Option.isSome_map (f := text), printDeviceStatus_eq]
    split <;> simp_all
  have hSend : (sendDeviceStatus w client d s).isSome ↔ SendInBounds w d s := by
    rw [sendDeviceStatus_eq]
    split <;> simp_all
  have hBroadcast : (broadcastStatusMessage w group s).isSome ↔
      w.malloc s.mallocs = none ∨ ∀ r ∈ reached w s.gDevices (malloc w s).2, PrintFits r := by
    rw [broadcastStatusMessage_eq]
    split <;> simp_all
  rw [← hPrint, ← hSend, ← hBroadcast]
  constructor
  · intro h
    exact ⟨h.printDeviceStatus, h.sendDeviceStatus, h.broadcastStatusMessage⟩
  · intro ⟨hPrinted, hSent, hBroadcasted⟩
    refine ⟨hPrinted, hSent, ?_, ?_, hBroadcasted⟩
    · rw [sendDeviceList_eq]
      rfl
    · rw [sendClientStatus_eq]
      rfl

/-- A server with `ppp0` up and ten clients connected to it, whose clock has been put back by
1000000000 seconds since. -/
def steppedServer : State :=
  { boot (calmWorld 1 []) [pppSection] with
    dev := fun _ =>
      { (boot (calmWorld 1 []) [pppSection]).dev 0 with
        status := .up
        connectTime := 1000001001
        clientsConnected := List.range 10 } }

/-- The report on `ppp0` takes one character more than `send_device_status` has for it. -/
theorem send_device_status_overflows :
    (LinkControl.printDeviceStatus (calmWorld 1 []) 0 steppedServer).1 =
      some "ppp0\tUP -1000000000 10".toList ∧
    sendSize "ppp0".toList = (serverStatusPrefix ++ "ppp0\tUP -1000000000 10".toList).length ∧
    ¬ InBounds (calmWorld 1 []) none 0 0 steppedServer := by
  refine ⟨by decide +kernel, by decide +kernel, fun h => ?_⟩
  have hSome := h.sendDeviceStatus
  exact absurd hSome (by decide +kernel)

end LinkControl.Buffered
