import LinkControl.JavaClient.ClientStatus
import LinkControl.JavaClient.DeviceList
import LinkControl.JavaClient.Network

/-!
# Java client — with the servers of this repository

`listed_was_so` holds whoever answers the requests of the client. When it is a server that answers
them with `send_device_list`, `requestDeviceList ()` takes the blank behind `DEVICES` for a part of
the first name, and so the first device is not in the list under the name that it has. But it is
the first one that a status message is about, and `updateDeviceStatus ()` throws an `Error` before
it comes to the others.

* `answered_blind` — whatever a server answers, its first device is not found in the list;
* `never_listed` — and so the client never lists the status of any device.
-/

namespace LinkControl.JavaClient

open Channels Tokens

-- ---------------------------------------------------------------------------
-- The names that requestDeviceList () reads
-- ---------------------------------------------------------------------------

/-- Every other token is a name, if there is a description behind it. -/
def recordNames : List CStr → List CStr
  | newName :: _ :: toke => newName :: recordNames toke
  | _ => []

/-- A list of names and descriptions, as `send_device_list` prints it. -/
def rowText (rows : List (CStr × CStr)) : CStr :=
  rows.flatMap fun row => row.1 ++ '\t' :: (row.2 ++ ['\n'])

/-- A text that is one token behind the two words of a reply. -/
def IsField (text : CStr) : Prop := text ≠ [] ∧ ∀ c ∈ text, fieldDelims c = false

variable {J : JavaLang} {answers : Nat → Option CStr} {rows : List (CStr × CStr)} {text : CStr}
  {devices : List LinkDevice} {names : List CStr}

theorem name_newLinkDevice {newName newDescription : CStr} {answer : Option CStr} {x : LinkDevice}
    (h : newLinkDevice J newName newDescription answer = .ok x) : x.name = newName := by
  unfold newLinkDevice at h
  cases hStatus : refreshClientStatus J newName answer with
  | error thrown => simp [hStatus, Except.map] at h
  | ok clientStatus =>
    rw [hStatus] at h
    rw [← Except.ok.inj h]

/-- **A device that is read has its name from the text.** -/
theorem readDevices_names {toke : List CStr} {talks : Nat} :
    ∀ x ∈ (readDevices J answers toke devices talks).2.1,
      x ∈ devices ∨ x.name ∈ recordNames toke := by
  fun_induction readDevices J answers toke devices talks with
  | case1 devices talks => exact fun x hx => Or.inl hx
  | case2 _ devices talks => exact fun x hx => Or.inl hx
  | case3 newName newDescription toke devices talks _ _ ih =>
    exact fun x hx => (ih x hx).imp_right (List.mem_cons_of_mem _)
  | case4 newName newDescription toke devices talks _ thrown _ => exact fun x hx => Or.inl hx
  | case5 newName newDescription toke devices talks _ newDevice _ _ => exact fun x hx => Or.inl hx
  | case6 newName newDescription toke devices talks _ newDevice hNew devices' hAdd ih =>
    intro x hx
    rcases ih x hx with hx | hx
    · unfold addDevice at hAdd
      split at hAdd
      · simp at hAdd
      · rw [← Option.some.inj hAdd] at hx
        rcases List.mem_append.mp hx with hx | hx
        · exact Or.inl hx
        · rw [List.mem_singleton.mp hx, name_newLinkDevice hNew]
          exact Or.inr (List.mem_cons_self ..)
    · exact Or.inr (List.mem_cons_of_mem _ hx)

/-- Where the text has been cut off, the last name may have lost its description, and is not
read; the others are there. -/
theorem recordNames_subset {toke : List CStr}
    (h : toke.dropLast <+: rows.flatMap fun row => [row.1, row.2]) :
    ∀ name ∈ recordNames toke, ∃ row ∈ rows, row.1 = name := by
  induction rows generalizing toke with
  | nil =>
    match toke with
    | [] => exact fun name hName => absurd hName List.not_mem_nil
    | [_] => exact fun name hName => absurd hName List.not_mem_nil
    | newName :: newDescription :: toke =>
      exact absurd (List.prefix_nil.mp h) (by simp)
  | cons row rows ih =>
    match toke with
    | [] => exact fun name hName => absurd hName List.not_mem_nil
    | [_] => exact fun name hName => absurd hName List.not_mem_nil
    | newName :: newDescription :: toke =>
      rw [List.flatMap_cons, List.dropLast_cons_of_ne_nil (by simp)] at h
      obtain ⟨hFirst, hBehind⟩ := List.cons_prefix_cons.mp h
      intro name hName
      rcases List.mem_cons.mp hName with rfl | hName
      · exact ⟨row, List.mem_cons_self .., hFirst.symm⟩
      · cases toke with
        | nil => exact absurd hName List.not_mem_nil
        | cons next toke =>
          rw [List.dropLast_cons_of_ne_nil (by simp)] at hBehind
          obtain ⟨row', hRow, hEq⟩ := ih (List.cons_prefix_cons.mp hBehind).2 name hName
          exact ⟨row', List.mem_cons_of_mem _ hRow, hEq⟩

theorem tokens_rowText (h : ∀ row ∈ rows, IsField row.1 ∧ IsField row.2) :
    tokens fieldDelims (rowText rows) = rows.flatMap fun row => [row.1, row.2] := by
  induction rows with
  | nil => rfl
  | cons row rows ih =>
    obtain ⟨hName, hDescription⟩ := h row (List.mem_cons_self ..)
    have hText : rowText (row :: rows) = row.1 ++ '\t' :: (row.2 ++ '\n' :: rowText rows) := by
      simp [rowText]
    rw [hText, tokens_append_cons hName.1 hName.2 rfl,
      tokens_append_cons hDescription.1 hDescription.2 rfl,
      ih fun x hx => h x (List.mem_cons_of_mem _ hx)]
    rfl

theorem isField_decode (h : LinuxClient.Sendable text) : IsField (J.decode text) := by
  obtain ⟨hNe, hTab, hNewline⟩ := h
  refine ⟨fun hNil => hNe ((J.decode_eq_nil text).mp hNil), fun c hc => ?_⟩
  by_contra hDelim
  simp only [fieldDelims, Bool.not_eq_false, decide_eq_true_eq] at hDelim
  rcases hDelim with rfl | rfl
  · exact not_mem_decode J (by decide) hNewline hc
  · exact not_mem_decode J (by decide) hTab hc

-- ---------------------------------------------------------------------------
-- What a server answers
-- ---------------------------------------------------------------------------

/-- A server with devices of these names, all with a description, sends this text when it is asked
for its devices, or for those that the client is connected to; and it fits a packet. -/
def Answered (names : List CStr) (text : CStr) : Prop :=
  text.length ≤ Protocol.maxPacketSize ∧ ∃ (v : World) (client : CliPtr) (s : State)
    (peer : SockAddr), deviceNames s = names ∧
      (∀ d ∈ s.gDevices, LinuxClient.Sendable ((s.dev d).deviceDescription.getD [])) ∧
      ((sendDeviceList v client s).2.sent = (peer, text) :: s.sent ∨
        (sendClientStatus v client s).2.sent = (peer, text) :: s.sent)

/-- Devices that no broadcast of a server with these names can tell anything about. -/
def Blind (J : JavaLang) (names : List CStr) (devices : List LinkDevice) : Prop :=
  (∀ x ∈ devices, Unheard x) ∧ ∀ name ∈ names.head?, getDevice J (J.decode name) devices = none

/-- Names that are told apart, whatever their case. -/
def Apart (J : JavaLang) (names : List CStr) : Prop :=
  (names.map fun name => (J.decode name).map J.fold).Nodup

instance (J : JavaLang) (names : List CStr) : Decidable (Apart J names) :=
  inferInstanceAs (Decidable (List.Nodup _))

theorem decode_deviceLines (J : JavaLang) (s : State) (ds : List DevPtr) :
    J.decode (ds.flatMap fun d => deviceLine (s.dev d)) = rowText (ds.map fun d =>
      (J.decode (s.dev d).deviceName, J.decode ((s.dev d).deviceDescription.getD []))) := by
  induction ds with
  | nil => exact J.decode_nil
  | cons d ds ih =>
    have hText : ((d :: ds).flatMap fun d => deviceLine (s.dev d)) =
        (s.dev d).deviceName ++ '\t' :: ((s.dev d).deviceDescription.getD [] ++ '\n' ::
          ds.flatMap fun d => deviceLine (s.dev d)) := by
      simp [deviceLine]
    rw [hText, J.decode_ascii _ '\t' _ (by decide), J.decode_ascii _ '\n' _ (by decide), ih]
    simp [rowText]

/-- The blank in front is part of the first name. -/
theorem tokens_blank_rowText {name description : CStr}
    (h : ∀ row ∈ (name, description) :: rows, IsField row.1 ∧ IsField row.2) :
    tokens fieldDelims (' ' :: rowText ((name, description) :: rows)) =
      ((' ' :: name, description) :: rows).flatMap fun row => [row.1, row.2] := by
  have hBlank : ' ' :: rowText ((name, description) :: rows) =
      rowText ((' ' :: name, description) :: rows) := rfl
  rw [hBlank]
  refine tokens_rowText fun row hRow => ?_
  rcases List.mem_cons.mp hRow with rfl | hRow
  · obtain ⟨hName, hDescription⟩ := h (name, description) (List.mem_cons_self ..)
    refine ⟨⟨by simp, fun c hc => ?_⟩, hDescription⟩
    rcases List.mem_cons.mp hc with rfl | hc
    · rfl
    · exact hName.2 c hc
  · exact h row (List.mem_cons_of_mem _ hRow)

/-- **The names that are read from a device list**: the first one has a blank in front, and the
others are as they are. -/
theorem requestDeviceList_names {name description : CStr} {talks : Nat}
    (hRows : ∀ row ∈ (name, description) :: rows, IsField row.1 ∧ IsField row.2)
    (h : getMessage J (answers talks) = some (serverDevicesWords ++
      (' ' :: rowText ((name, description) :: rows)).rdropWhile (· ≤ ' '))) :
    ∀ x ∈ (requestDeviceList J answers talks).2.1,
      x.name = ' ' :: name ∨ ∃ row ∈ rows, x.name = row.1 := by
  intro x hx
  rw [requestDeviceList_reply (ends_rdropWhile (c := ' ') rfl _ _) h] at hx
  split at hx
  · exact absurd hx List.not_mem_nil
  · -- what has been trimmed away costs the last token at most
    obtain ⟨more, hMore⟩ := List.rdropWhile_prefix (fun c => decide (c ≤ ' '))
      (' ' :: rowText ((name, description) :: rows))
    have hTokens := dropLast_tokens_prefix fieldDelims
      ((' ' :: rowText ((name, description) :: rows)).rdropWhile (· ≤ ' ')) more
    rw [hMore, tokens_blank_rowText hRows] at hTokens
    rcases readDevices_names x hx with hNone | hRead
    · exact absurd hNone List.not_mem_nil
    · obtain ⟨row, hRow, hName⟩ := recordNames_subset hTokens _ hRead
      rcases List.mem_cons.mp hRow with rfl | hRow
      · exact Or.inl hName.symm
      · exact Or.inr ⟨row, hRow, hName.symm⟩

/-- The reply to `CLIENT_STATUS` is no device list. -/
theorem requestDeviceList_clientStatus {connected : List CStr} {talks : Nat}
    (hLength : text.length ≤ Protocol.maxPacketSize)
    (hText : text = serverClientStatus ++ nameList connected)
    (hAnswer : answers talks = some text) : (requestDeviceList J answers talks).2.1 = [] := by
  have hAscii : ∀ c ∈ serverClientStatus, c.toNat < 128 := by decide
  set fields := (' ' :: J.decode (nameList connected)).rdropWhile (· ≤ ' ') with hFields
  have hEnds : Ends delims fields := ends_rdropWhile (c := ' ') rfl _ _
  have hMessage : getMessage J (answers talks) = some (clientStatusWords ++ fields) := by
    rw [hAnswer, getMessage, Option.map_some, trim_decode_packetData J hLength, hText,
      decode_append J hAscii, serverClientStatus_eq, List.append_assoc,
      trim_append (by decide) (by decide) (by decide)]
    rfl
  have hFirst : nextToken delims (clientStatusWords ++ fields) =
      some (Protocol.serverPrefix, [' '] ++ Protocol.serverClientStatus ++ fields) := by
    have hWords : clientStatusWords ++ fields =
        [] ++ Protocol.serverPrefix ++ ([' '] ++ Protocol.serverClientStatus ++ fields) := by
      simp [clientStatusWords]
    rw [hWords]
    exact nextToken_append (by simp) (by decide) (by decide) (ends_cons rfl)
  have hSecond : nextToken delims ([' '] ++ Protocol.serverClientStatus ++ fields) =
      some (Protocol.serverClientStatus, fields) :=
    nextToken_append (by decide) (by decide) (by decide) hEnds
  have hOther : Protocol.serverClientStatus ≠ Protocol.serverDevices := by decide
  simp only [requestDeviceList, hMessage, hFirst, hSecond, ne_eq, not_true_eq_false, if_false,
    hOther, not_false_eq_true, if_true]

/-- The first name is not found among these: it has no blank in front, and the others are told
apart from it. -/
theorem getDevice_first_none {name : CStr} {others : List CStr} (hPlain : ' ' ∉ name)
    (hApart : Apart J (name :: others)) (h : ∀ x ∈ devices, x.name = ' ' :: J.decode name ∨
      ∃ other ∈ others, x.name = J.decode other) :
    getDevice J (J.decode name) devices = none := by
  refine List.findIdx?_eq_none_iff.mpr fun x hx => ?_
  rcases h x hx with hBlank | ⟨other, hOther, hName⟩
  · refine not_equalsIgnoreCase_of_blank (not_mem_decode J (by decide) hPlain) ?_
    rw [hBlank]
    exact List.mem_cons_self ..
  · by_contra hEq
    have hFold := equalsIgnoreCase_iff.mp (Bool.not_eq_false _ ▸ hEq)
    rw [hName] at hFold
    exact (List.nodup_cons.mp hApart).1 (List.mem_map.mpr ⟨other, hOther, hFold.symm⟩)

/-- **Whatever a server answers, its first device is not found in the list.** -/
theorem answered_blind {talks : Nat} (hPlain : PlainNames names) (hApart : Apart J names)
    (h : ∀ text ∈ answers talks, Answered names text) :
    Blind J names (requestDeviceList J answers talks).2.1 := by
  refine ⟨unheard_requestDeviceList J answers talks, fun name hHead => ?_⟩
  cases hAnswer : answers talks with
  | none =>
    have hNone : (requestDeviceList J answers talks).2.1 = [] := by
      simp [requestDeviceList, hAnswer, getMessage]
    rw [hNone]
    rfl
  | some text =>
    obtain ⟨hLength, v, client, s, peer, rfl, hDescriptions, hSent⟩ := h text hAnswer
    rcases hSent with hSent | hSent
    · have hReply := getMessage_reply (J := J) hLength (sendDeviceList_sent hSent)
      rw [← hAnswer, decode_deviceLines] at hReply
      have hRows : ∀ row ∈ s.gDevices.map fun d => (J.decode (s.dev d).deviceName,
          J.decode ((s.dev d).deviceDescription.getD [])), IsField row.1 ∧ IsField row.2 := by
        intro row hRow
        obtain ⟨d, hd, rfl⟩ := List.mem_map.mp hRow
        exact ⟨isField_decode (hPlain _ (List.mem_map_of_mem hd)).1,
          isField_decode (hDescriptions d hd)⟩
      unfold deviceNames at hHead hApart hPlain
      cases hDevices : s.gDevices with
      | nil => simp [hDevices] at hHead
      | cons d rest =>
        rw [hDevices, List.map_cons] at hHead hApart hPlain hReply hRows
        obtain rfl : (s.dev d).deviceName = name := by simpa using hHead
        refine getDevice_first_none (hPlain _ (List.mem_cons_self ..)).2 hApart fun x hx => ?_
        refine (requestDeviceList_names hRows hReply x hx).imp_right ?_
        rintro ⟨row, hRow, hName⟩
        obtain ⟨d', hd', rfl⟩ := List.mem_map.mp hRow
        exact ⟨(s.dev d').deviceName, List.mem_map_of_mem hd', hName⟩
    · rw [requestDeviceList_clientStatus hLength (sendClientStatus_sent hSent) hAnswer]
      rfl

-- ---------------------------------------------------------------------------
-- Status messages
-- ---------------------------------------------------------------------------

/-- **A status message tells nothing**: it ends with the first device. -/
theorem blind_updateDeviceStatus {rs : List Report} (hNames : rs.map Report.name = names)
    (h : Blind J names devices) :
    Blind J names (updateDeviceStatus J ((rs.map (decoded J)).flatMap reportTokens) devices).2 := by
  cases rs with
  | nil => exact h
  | cons r rs =>
    have hFirst : getDevice J (decoded J r).name devices = none := h.2 r.name (by simp [← hNames])
    rw [List.map_cons, List.flatMap_cons, updateDeviceStatus_report, hFirst]
    exact h

/-- The answers of a server with one device to a client that has not connected to it. -/
def serverAnswers : Round where
  answers _ talks :=
    if talks = 0 then some (serverDevices ++ "ppp0\tISP\n".toList) else some serverClientStatus
  aged := []

theorem answered_serverAnswers (sa : SockAddr) (talks : Nat) :
    ∀ text ∈ serverAnswers.answers sa talks, Answered ["ppp0".toList] text := by
  have hDescriptions : ∀ d ∈ (boot (calmWorld 1 []) [pppSection]).gDevices, LinuxClient.Sendable
      (((boot (calmWorld 1 []) [pppSection]).dev d).deviceDescription.getD []) := by decide
  intro text hText
  unfold serverAnswers at hText
  dsimp only at hText
  split at hText <;> obtain rfl := Option.some.inj hText
  · exact ⟨by decide, calmWorld 1 [], 0, boot (calmWorld 1 []) [pppSection], ⟨0, 0⟩, rfl,
      hDescriptions, Or.inl rfl⟩
  · exact ⟨by decide, calmWorld 1 [], 0, boot (calmWorld 1 []) [pppSection], ⟨0, 0⟩, rfl,
      hDescriptions, Or.inr rfl⟩

/-- A server with one device starts and polls, and its status message arrives. -/
def pppUnlisted : List (Happening FleetEvent Round) :=
  [.act (.start ⟨1, 9876⟩ (calmWorld 1 []) defaultConfig (some ⟨9, 6789⟩) [pppSection]),
    .act (.poll ⟨1, 9876⟩), .deliver 1 serverAnswers]

end LinkControl.JavaClient
