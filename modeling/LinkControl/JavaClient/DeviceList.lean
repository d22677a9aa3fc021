import LinkControl.Server.DeviceList
import LinkControl.JavaClient.Packets

/-!
# Java client — the device list

`requestDeviceList ()` on the reply that `send_device_list` sends. When the tokenizer is told
to stop at `"\n\t"` only, it stands at the blank behind `DEVICES`, and so this blank is part
of the first name: the list that comes out is the one the server has only if there is no
device (`device_list_round_trip`).
-/

namespace LinkControl.JavaClient

open Tokens

/-- What the server says about its devices: names and descriptions, in order. -/
def advertised (J : JavaLang) (s : State) : List (CStr × CStr) :=
  s.gDevices.map fun d =>
    (J.decode (s.dev d).deviceName, J.decode ((s.dev d).deviceDescription.getD []))

variable {J : JavaLang} {answers : Nat → Option CStr}

/-- The words a reply starts with; the blank behind them is not one of them. -/
def serverDevicesWords : CStr := Protocol.serverPrefix ++ [' '] ++ Protocol.serverDevices

theorem serverDevices_eq : serverDevices = serverDevicesWords ++ [' '] := rfl

/-- The client's view of a reply: what is left behind the two words of it. -/
theorem getMessage_reply {text lines : CStr} (h : text.length ≤ Protocol.maxPacketSize)
    (hText : text = serverDevices ++ lines) :
    getMessage J (some text) =
      some (serverDevicesWords ++ (' ' :: J.decode lines).rdropWhile (· ≤ ' ')) := by
  have hAscii : ∀ c ∈ serverDevices, c.toNat < 128 := by decide
  rw [getMessage, Option.map_some, trim_decode_packetData J h, hText, decode_append J hAscii,
    serverDevices_eq, List.append_assoc, trim_append (by decide) (by decide) (by decide)]
  rfl

/-- The loop only ever adds devices at the end. -/
theorem readDevices_prefix {toke : List CStr} {devices devices' : List LinkDevice}
    {talks talks' : Nat} {thrown : Option Thrown}
    (h : readDevices J answers toke devices talks = (thrown, devices', talks')) :
    devices <+: devices' := by
  induction toke, devices, talks using readDevices.induct J answers with
  | case1 devices talks =>
    simp only [readDevices, Prod.mk.injEq] at h
    exact h.2.1 ▸ List.prefix_refl _
  | case2 name devices talks =>
    simp only [readDevices, Prod.mk.injEq] at h
    exact h.2.1 ▸ List.prefix_refl _
  | case3 name description toke devices talks place hKnown ih =>
    rw [readDevices, hKnown] at h
    exact ih h
  | case4 name description toke devices talks hNew thrown' hThrown =>
    simp only [readDevices, hNew, hThrown, Prod.mk.injEq] at h
    exact h.2.1 ▸ List.prefix_refl _
  | case5 name description toke devices talks hNew device hDevice hExists =>
    simp only [readDevices, hNew, hDevice, hExists, Prod.mk.injEq] at h
    exact h.2.1 ▸ List.prefix_refl _
  | case6 name description toke devices talks hNew device hDevice devices₁ hAdd ih =>
    simp only [readDevices, hNew, hDevice, hAdd] at h
    refine List.IsPrefix.trans ?_ (ih h)
    unfold addDevice at hAdd
    split at hAdd
    · exact absurd hAdd (by simp)
    · exact Option.some.inj hAdd ▸ List.prefix_append ..

/-- The first token is the name of the first device. -/
theorem readDevices_first {name description : CStr} {toke : List CStr}
    {devices : List LinkDevice} {talks talks' : Nat}
    (h : readDevices J answers (name :: description :: toke) [] talks = (none, devices, talks')) :
    (devices.map LinkDevice.name).head? = some name := by
  have hNone : getDevice J name [] = none := rfl
  simp only [readDevices, hNone] at h
  cases hNew : newLinkDevice J name description (answers talks) with
  | error thrown => simp [hNew] at h
  | ok device =>
    have hName : device.name = name := by
      unfold newLinkDevice at hNew
      cases hStatus : refreshClientStatus J name (answers talks) with
      | error thrown => simp [hStatus, Except.map] at hNew
      | ok status =>
        rw [hStatus] at hNew
        exact (congrArg LinkDevice.name (Except.ok.inj hNew)).symm
    have hAdd : addDevice J device [] = some [device] := rfl
    simp only [hNew, hAdd] at h
    obtain ⟨more, rfl⟩ := readDevices_prefix h
    simp [hName]

/-- **A token that starts where the first name does is not the first name**: the blank in
front of it is part of it. -/
theorem first_token_ne {name lines text token rest : CStr}
    (hText : text <+: ' ' :: (name ++ '\t' :: lines))
    (hToken : nextToken fieldDelims text = some (token, rest)) (hRest : rest ≠ []) :
    token ≠ name := by
  intro hEq
  obtain ⟨gap, rfl, hGap, hNe, hNoDelim, hEnds⟩ := nextToken_some hToken
  obtain ⟨c, rest, rfl⟩ := List.exists_cons_of_ne_nil hRest
  have hc : fieldDelims c = true := hEnds c rfl
  have hBlank : fieldDelims ' ' = false := rfl
  cases gap with
  | cons g gap =>
    -- the text starts with a blank, which is no delimiter
    have hHead : g = ' ' := (List.cons_prefix_cons.mp (by simpa using hText)).1
    have hg := hGap g (List.mem_cons_self ..)
    rw [hHead, hBlank] at hg
    exact absurd hg (by simp)
  | nil =>
    rw [List.nil_append, hEq] at hText
    have hTake : name ++ [c] <+: ' ' :: name := by
      have hLong : name ++ [c] <+: ' ' :: (name ++ '\t' :: lines) :=
        (List.prefix_append_right_inj name |>.mpr (by simp)).trans hText
      have hShort : ' ' :: name <+: ' ' :: (name ++ '\t' :: lines) := by simp
      exact List.prefix_of_prefix_length_le hLong hShort (by simp)
    have hMem : c ∈ ' ' :: name := hTake.subset (by simp)
    rcases List.mem_cons.mp hMem with rfl | hMem
    · rw [hBlank] at hc
      exact absurd hc (by simp)
    · rw [hNoDelim c (hEq ▸ hMem)] at hc
      exact absurd hc (by simp)

/-- What `requestDeviceList ()` does behind the two words of the reply. -/
theorem requestDeviceList_reply {fields : CStr} {talks : Nat} (hEnds : Ends delims fields)
    (h : getMessage J (answers talks) = some (serverDevicesWords ++ fields)) :
    requestDeviceList J answers talks =
      if fields.all delims then (none, [], talks + 1)
      else readDevices J answers (tokens fieldDelims fields) [] (talks + 1) := by
  have hFirst : nextToken delims (serverDevicesWords ++ fields) =
      some (Protocol.serverPrefix, [' '] ++ Protocol.serverDevices ++ fields) := by
    have hWords : serverDevicesWords ++ fields =
        [] ++ Protocol.serverPrefix ++ ([' '] ++ Protocol.serverDevices ++ fields) := by
      simp [serverDevicesWords]
    rw [hWords]
    exact nextToken_append (by simp) (by decide) (by decide) (ends_cons rfl)
  have hSecond : nextToken delims ([' '] ++ Protocol.serverDevices ++ fields) =
      some (Protocol.serverDevices, fields) :=
    nextToken_append (by decide) (by decide) (by decide) hEnds
  simp only [requestDeviceList, h, hFirst, hSecond, ne_eq, not_true_eq_false, if_false]

/-- **The device list**, on the reply that `send_device_list` has sent: the client gets the
names and descriptions of the server, in this order, exactly if the server has no device. -/
theorem device_list_round_trip (J : JavaLang) (v : World) (client : CliPtr) (s : State)
    (peer : SockAddr) (text : CStr) (answers : Nat → Option CStr) (talks : Nat)
    (hSent : (sendDeviceList v client s).2.sent = (peer, text) :: s.sent)
    (hLength : text.length ≤ Protocol.maxPacketSize) (hAnswer : answers talks = some text) :
    (∃ devices talks', requestDeviceList J answers talks = (none, devices, talks') ∧
      devices.map (fun d => (d.name, d.description)) = advertised J s) ↔ s.gDevices = [] := by
  have hReply := getMessage_reply (J := J) hLength (sendDeviceList_sent hSent)
  rw [← hAnswer] at hReply
  set lines := s.gDevices.flatMap fun d => deviceLine (s.dev d) with hLines
  set fields := (' ' :: J.decode lines).rdropWhile (· ≤ ' ') with hFields
  have hPrefix : fields <+: ' ' :: J.decode lines := List.rdropWhile_prefix ..
  have hEnds : Ends delims fields := ends_rdropWhile (c := ' ') rfl _ _
  rw [requestDeviceList_reply hEnds hReply]
  constructor
  · intro h
    obtain ⟨devices, talks', hList, hSame⟩ := h
    by_contra hDevices
    obtain ⟨d, rest, hCons⟩ := List.exists_cons_of_ne_nil hDevices
    have hHead : (devices.map LinkDevice.name).head? = some (J.decode (s.dev d).deviceName) := by
      have hNames := congrArg (List.map Prod.fst) hSame
      rw [List.map_map, advertised, hCons, List.map_cons, List.map_cons] at hNames
      rw [show devices.map LinkDevice.name = devices.map (Prod.fst ∘ fun d => (d.name, d.description))
        from rfl, hNames]
      rfl
    split at hList
    · have hNil : [] = devices := congrArg (fun f : Filled => f.2.1) hList
      simp [← hNil] at hHead
    · rename_i hMore
      cases hNext : nextToken fieldDelims fields with
      | none =>
        -- a blank is not a delimiter any more
        have hAll := nextToken_none.mp hNext
        refine hMore (List.all_eq_true.mpr fun c hc => ?_)
        have hDelim := hAll c hc
        simp only [fieldDelims, delims, decide_eq_true_eq] at hDelim ⊢
        exact Or.inr hDelim
      | some next =>
        obtain ⟨token, toke⟩ := next
        rw [tokens_of_nextToken hNext] at hList
        cases hTokens : tokens fieldDelims toke with
        | nil => simp [hTokens, readDevices] at hList
        | cons description toke' =>
          rw [hTokens] at hList
          have hToke : toke ≠ [] := by
            rintro rfl
            simp [tokens] at hTokens
          have hDecode : J.decode lines = J.decode (s.dev d).deviceName ++ '\t' ::
              J.decode ((s.dev d).deviceDescription.getD [] ++ ['\n'] ++
                rest.flatMap fun d => deviceLine (s.dev d)) := by
            rw [hLines, hCons, List.flatMap_cons, ← J.decode_ascii _ '\t' _ (by decide)]
            simp [deviceLine]
          rw [hDecode] at hPrefix
          have hFirst := readDevices_first hList
          rw [hHead, Option.some.injEq] at hFirst
          exact first_token_ne hPrefix hNext hToke hFirst.symm
  · intro hNone
    have hNothing : fields = [] := by
      rw [hFields, hLines, hNone, List.flatMap_nil, J.decode_nil]
      rfl
    rw [hNothing]
    exact ⟨[], talks + 1, rfl, by rw [advertised, hNone]; rfl⟩

/-- The server with `ppp0`, and its reply. -/
theorem device_list_round_trip_ppp :
    (∃ devices talks', requestDeviceList asciiJava
        (fun _ => some (serverDevices ++ "ppp0\tISP\n".toList)) 0 = (none, devices, talks') ∧
      devices.map (fun d => (d.name, d.description)) =
        advertised asciiJava (boot (calmWorld 1 []) [pppSection])) ↔
      (boot (calmWorld 1 []) [pppSection]).gDevices = [] :=
  device_list_round_trip asciiJava (calmWorld 1 []) 0 (boot (calmWorld 1 []) [pppSection]) ⟨0, 0⟩
    (serverDevices ++ "ppp0\tISP\n".toList) _ 0 rfl (by decide) rfl

/-- The client takes the one device to be ` ppp0`, with a blank in front. -/
theorem device_list_blank :
    (sendDeviceList (calmWorld 1 []) 0 (boot (calmWorld 1 []) [pppSection])).2.sent =
      [(⟨0, 0⟩, serverDevices ++ "ppp0\tISP\n".toList)] ∧
    (requestDeviceList asciiJava (fun _ => some (serverDevices ++ "ppp0\tISP\n".toList)) 0).1 =
      none ∧
    (requestDeviceList asciiJava (fun _ => some (serverDevices ++ "ppp0\tISP\n".toList)) 0).2.1.map
      (fun d => (d.name, d.description)) = [(" ppp0".toList, "ISP".toList)] ∧
    advertised asciiJava (boot (calmWorld 1 []) [pppSection]) =
      [("ppp0".toList, "ISP".toList)] :=
  ⟨rfl, by decide +kernel, by decide +kernel, rfl⟩

end LinkControl.JavaClient
