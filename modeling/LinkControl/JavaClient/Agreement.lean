import LinkControl.JavaClient.Status

/-!
# Java client — both clients decode a broadcast alike

`updateDeviceStatus ()` and the Linux client's `process_status_message` on the same status
broadcast. They agree with each other and with the server, whatever they held before,
exactly if no name has a blank in it, no two names differ in case only, and the numbers fit
an `int` (`decoded_alike_iff`).

* A name with a blank in it is two tokens, and no token is equal to it.
* Of two names that differ in case only, every token finds the first one.
-/

namespace LinkControl.JavaClient

open Tokens

variable {J : JavaLang} {r : Report} {rs : List Report} {devices : List LinkDevice} {i : Nat}

-- ---------------------------------------------------------------------------
-- Reports about devices that are told apart
-- ---------------------------------------------------------------------------

theorem getDevice_some {name : CStr} (h : getDevice J name devices = some i) :
    ∃ d, devices[i]? = some d ∧ name.map J.fold = d.name.map J.fold ∧
      ∀ j d', j < i → devices[j]? = some d' → name.map J.fold ≠ d'.name.map J.fold := by
  obtain ⟨hLt, hEq, hBefore⟩ := List.findIdx?_eq_some_iff_getElem.mp h
  refine ⟨devices[i], List.getElem?_eq_getElem hLt, equalsIgnoreCase_iff.mp hEq, ?_⟩
  intro j d' hj hd' hFold
  obtain ⟨hLt', rfl⟩ := List.getElem?_eq_some_iff.mp hd'
  exact hBefore j hj (equalsIgnoreCase_iff.mpr hFold)

/-- Devices whose names are told apart, whatever the case, are found by their names. -/
theorem getDevice_of_getElem? (h : (devices.map fun d => d.name.map J.fold).Nodup) {d : LinkDevice}
    (hd : devices[i]? = some d) : getDevice J d.name devices = some i := by
  obtain ⟨hLt, rfl⟩ := List.getElem?_eq_some_iff.mp hd
  refine List.findIdx?_eq_some_iff_getElem.mpr ⟨hLt, equalsIgnoreCase_iff.mpr rfl, ?_⟩
  intro j hj hEq
  have hSame := equalsIgnoreCase_iff.mp hEq
  have hNe := (List.nodup_iff_pairwise_ne.mp h).rel_get_of_lt
    (a := ⟨j, by simp; omega⟩) (b := ⟨i, by simpa using hLt⟩) hj
  simp only [List.get_eq_getElem, List.getElem_map] at hNe
  exact hNe hSame.symm

theorem hearAll_names (J : JavaLang) (rs : List Report) (devices : List LinkDevice) :
    (hearAll J rs devices).map LinkDevice.name = devices.map LinkDevice.name := by
  induction rs generalizing devices with
  | nil => rfl
  | cons r rs ih =>
    rw [hearAll, ih]
    cases getDevice J r.name devices with
    | none => rfl
    | some place => exact names_modify ..

theorem hearAll_untouched (h : ∀ r ∈ rs, getDevice J r.name devices ≠ some i) :
    (hearAll J rs devices)[i]? = devices[i]? := by
  induction rs generalizing devices with
  | nil => rfl
  | cons r rs ih =>
    have hFirst := h r (List.mem_cons_self ..)
    have hRest := fun x hx => h x (List.mem_cons_of_mem r hx)
    rw [hearAll]
    cases hPlace : getDevice J r.name devices with
    | none => exact ih hRest
    | some place =>
      have hNames : (devices.modify place (heard r)).map LinkDevice.name =
          devices.map LinkDevice.name := names_modify ..
      have hNe : place ≠ i := fun hEq => hFirst (hEq ▸ hPlace)
      rw [ih fun x hx => by rw [getDevice_congr hNames]; exact hRest x hx,
        List.getElem?_modify_ne _ _ hNe]

/-- **Every device is heard of once**, if the names are told apart. -/
theorem hearAll_heard (hDistinct : (rs.map fun r => r.name.map J.fold).Nodup) (hr : r ∈ rs)
    (hPlace : getDevice J r.name devices = some i) :
    (hearAll J rs devices)[i]? = (devices[i]?).map (heard r) := by
  induction rs generalizing devices with
  | nil => exact absurd hr List.not_mem_nil
  | cons x rs ih =>
    rw [List.map_cons, List.nodup_cons] at hDistinct
    obtain ⟨hNew, hRest⟩ := hDistinct
    obtain ⟨d, -, hName, -⟩ := getDevice_some hPlace
    rw [hearAll]
    rcases List.mem_cons.mp hr with rfl | hr
    · have hNames : (devices.modify i (heard r)).map LinkDevice.name =
          devices.map LinkDevice.name := names_modify ..
      rw [hPlace, hearAll_untouched, List.getElem?_modify_eq]
      · rfl
      · intro y hy hSame
        rw [getDevice_congr hNames] at hSame
        obtain ⟨d', hd', hName', -⟩ := getDevice_some hSame
        obtain ⟨d, hd, hName, -⟩ := getDevice_some hPlace
        obtain rfl := Option.some.inj (hd.symm.trans hd')
        exact hNew (List.mem_map.mpr ⟨y, hy, hName'.trans hName.symm⟩)
    · cases hFirst : getDevice J x.name devices with
      | none => exact ih hRest hr hPlace
      | some place =>
        have hNames : (devices.modify place (heard x)).map LinkDevice.name =
            devices.map LinkDevice.name := names_modify ..
        have hNe : place ≠ i := by
          rintro rfl
          obtain ⟨d, hd, hName, -⟩ := getDevice_some hPlace
          obtain ⟨d', hd', hName', -⟩ := getDevice_some hFirst
          obtain rfl := Option.some.inj (hd.symm.trans hd')
          exact hNew (List.mem_map.mpr ⟨r, hr, hName.trans hName'.symm⟩)
        rw [ih hRest hr (by rw [getDevice_congr hNames]; exact hPlace),
          List.getElem?_modify_ne _ _ hNe]

-- ---------------------------------------------------------------------------
-- The broadcast
-- ---------------------------------------------------------------------------

/-- The names of the devices of a server, as the client's decoder has them. -/
def decodedNames (J : JavaLang) (s : State) : List CStr :=
  s.gDevices.map fun d => J.decode (s.dev d).deviceName

/-- What the two clients show about a device is what the server knows about it. -/
structure Same (r : Report) (java : LinkDevice) (linux : LinuxClient.Device) : Prop where
  deviceName : linux.deviceName = some r.name
  status : linux.status = r.status
  connectTime : linux.connectTime = if r.status = .up then r.uptime else 0
  noUsers : linux.noUsers = if r.status = .up then r.users else 0
  javaStatus : java.deviceStatus = linkDeviceState linux.status
  javaConnectTime : java.connectTime = linux.connectTime
  javaNumUsers : java.numUsers = linux.noUsers

/-- Whatever the clients held before, with one device for each name in the Java client: they
read the text without a complaint, and agree about every device. -/
def DecodedAlike (J : JavaLang) (v : World) (s : State) (text : CStr) : Prop :=
  ∀ (w : LinuxClient.Surroundings) (pp : List LinuxClient.Device) (mallocs : Nat)
    (request : Request) (server : LinkServer) (l : Listener),
    (∀ k, (w.malloc k).isSome) → LinuxClient.Named pp →
    (pp.map LinuxClient.Device.deviceName).Nodup → server ∈ l.linkServers →
    (server.devicesControlled.map LinkDevice.name).Perm (decodedNames J s) →
    ∃ devices table mallocs',
      parseMessage J request (packetData text) server l =
        (none, { l with linkServers := setDevicesControlled server devices l.linkServers }) ∧
      LinuxClient.processStatusMessage w (text.drop broadcastStatus.length) pp mallocs =
        some (0, table, mallocs') ∧
      devices.map LinkDevice.name = server.devicesControlled.map LinkDevice.name ∧
      ∀ r ∈ reports v s, ∀ d ∈ devices, d.name = J.decode r.name → ∃ e ∈ table, Same r d e

theorem fold_decodedNames (J : JavaLang) (v : World) (s : State) :
    (decodedNames J s).map (List.map J.fold) =
      ((reports v s).map (decoded J)).map fun r => r.name.map J.fold := by
  have hNames := congrArg (List.map fun n => (J.decode n).map J.fold) (reports_names v s)
  rw [List.map_map, List.map_map] at hNames
  rw [decodedNames, List.map_map, List.map_map]
  exact hNames.symm

/-- **The Java client understands a broadcast** whose names are one token each and told
apart. -/
theorem updateDeviceStatus_heard {v : World} {s : State}
    (hTokens : ∀ r ∈ reports v s, IsToken (J.decode r.name))
    (hFold : ((decodedNames J s).map (List.map J.fold)).Nodup)
    (hHeld : (devices.map LinkDevice.name).Perm (decodedNames J s)) :
    updateDeviceStatus J (tokens delims (reportText ((reports v s).map (decoded J)))) devices =
      (none, hearAll J ((reports v s).map (decoded J)) devices) ∧
    ∀ r ∈ reports v s, ∀ d ∈ hearAll J ((reports v s).map (decoded J)) devices,
      d.name = J.decode r.name → ∃ old, d = heard r old := by
  have hDevices : (devices.map fun d => d.name.map J.fold).Nodup := by
    have hPerm := hHeld.map (List.map J.fold)
    rw [List.map_map] at hPerm
    exact hPerm.nodup_iff.mpr hFold
  have hPlaces : ∀ r ∈ reports v s, ∃ i d, devices[i]? = some d ∧ d.name = J.decode r.name ∧
      getDevice J (decoded J r).name devices = some i := by
    intro r hr
    have hMem : J.decode r.name ∈ devices.map LinkDevice.name := by
      refine hHeld.mem_iff.mpr ?_
      have hName : r.name ∈ (reports v s).map Report.name := List.mem_map_of_mem hr
      rw [reports_names] at hName
      obtain ⟨d, hd, hEq⟩ := List.mem_map.mp hName
      exact List.mem_map.mpr ⟨d, hd, congrArg J.decode hEq⟩
    obtain ⟨d, hd, hName⟩ := List.mem_map.mp hMem
    obtain ⟨i, hi⟩ := List.mem_iff_getElem?.mp hd
    refine ⟨i, d, hi, hName, ?_⟩
    rw [show (decoded J r).name = d.name from hName.symm]
    exact getDevice_of_getElem? hDevices hi
  constructor
  · rw [tokens_reportText]
    · refine updateDeviceStatus_reports fun x hx => ?_
      obtain ⟨r, hr, rfl⟩ := List.mem_map.mp hx
      obtain ⟨i, -, -, -, hPlace⟩ := hPlaces r hr
      rw [hPlace]
      rfl
    · intro x hx
      obtain ⟨r, hr, rfl⟩ := List.mem_map.mp hx
      exact hTokens r hr
  · intro r hr d hd hName
    obtain ⟨i, old, hOld, hOldName, hPlace⟩ := hPlaces r hr
    rw [fold_decodedNames J v s] at hFold
    have hHeard := hearAll_heard hFold (List.mem_map_of_mem hr) hPlace
    obtain ⟨j, hj⟩ := List.mem_iff_getElem?.mp hd
    -- the device of this name is the one that was found
    have hNameAt : ∀ k : Nat, ((hearAll J ((reports v s).map (decoded J)) devices)[k]?).map
        LinkDevice.name = (devices[k]?).map LinkDevice.name := by
      intro k
      rw [← List.getElem?_map, hearAll_names, List.getElem?_map]
    have hFound : getDevice J d.name devices = some j := by
      have hAt := hNameAt j
      rw [hj] at hAt
      obtain ⟨dj, hdj, hSame⟩ := Option.map_eq_some_iff.mp hAt.symm
      rw [← hSame]
      exact getDevice_of_getElem? hDevices hdj
    rw [hName, show J.decode r.name = (decoded J r).name from rfl, hPlace] at hFound
    obtain rfl := Option.some.inj hFound
    rw [hj, hOld] at hHeard
    exact ⟨old, Option.some.inj hHeard⟩

theorem decodedNames_eq (J : JavaLang) (v : World) (s : State) :
    decodedNames J s = (reports v s).map fun r => J.decode r.name := by
  have hNames := congrArg (List.map J.decode) (reports_names v s)
  rw [List.map_map, List.map_map] at hNames
  exact hNames.symm

/-- A name that can be sent and has no blank in it is one token. -/
theorem isToken_decode {name : CStr} (hName : LinuxClient.Sendable name) (hBlank : ' ' ∉ name) :
    IsToken (J.decode name) := by
  obtain ⟨hNe, hTab, hNewline⟩ := hName
  refine ⟨fun hNil => hNe ((J.decode_eq_nil name).mp hNil), fun c hc => ?_⟩
  by_contra hDelim
  simp only [delims, Bool.not_eq_false, decide_eq_true_eq] at hDelim
  rcases hDelim with rfl | rfl | rfl
  · exact not_mem_decode J (by decide) hBlank hc
  · exact not_mem_decode J (by decide) hNewline hc
  · exact not_mem_decode J (by decide) hTab hc

/-- What the Java client knows of a device that no broadcast has been about. -/
def unheard (name : CStr) : LinkDevice := ⟨name, [], .unknown, .unknown, 0, 0⟩

/-- Names that are told apart are distinct. -/
theorem received_distinct {v : World} {s : State}
    (h : ((decodedNames J s).map (List.map J.fold)).Nodup) :
    (((reports v s).map LinuxClient.received).map LinuxClient.Device.deviceName).Nodup := by
  rw [decodedNames_eq J v s, List.map_map] at h
  have hNames : ((reports v s).map Report.name).Nodup := by
    refine List.Nodup.of_map (fun n => (J.decode n).map J.fold) ?_
    rw [List.map_map]
    exact h
  have hSome := hNames.map (Option.some_injective CStr)
  rw [List.map_map] at hSome ⊢
  exact hSome

/-- What the Java client hears of a report, what the Linux client receives, and the report
itself are the same while the numbers fit. -/
theorem same_heard {r : Report} (old : LinkDevice)
    (h : r.status = .up → FitsInt r.uptime ∧ FitsInt r.users) :
    Same r (heard r old) (LinuxClient.received r) := by
  by_cases hUp : r.status = .up
  · obtain ⟨hUptime, hUsers⟩ := h hUp
    have hTime := toInt_eq_iff.mpr hUptime
    have hCount := toInt_eq_iff.mpr hUsers
    have hUnsigned : LinuxClient.toUnsigned r.users = r.users := by
      have hHigh := hUsers.2
      unfold LinuxClient.toUnsigned
      omega
    refine ⟨rfl, rfl, ?_, ?_, rfl, ?_, ?_⟩ <;>
      simp only [heard, LinkDevice.setStatus, LinuxClient.received, hUp, if_true, hTime, hCount,
        hUnsigned]
  · refine ⟨rfl, rfl, ?_, ?_, rfl, ?_, ?_⟩ <;>
      simp only [heard, LinkDevice.setStatus, LinuxClient.received, hUp, if_false, Nat.cast_zero]

section Necessary

variable {v : World} {s s' : State} {text : CStr} (hText : statusMessage v s = (some text, s'))
  (hLength : text.length ≤ Protocol.maxPacketSize) (hAlike : DecodedAlike J v s text)
include hText hLength hAlike

/-- What clients that have heard nothing before make of a broadcast, if they agree. -/
theorem alike_unheard : ∃ devices table mallocs',
    updateDeviceStatus J (tokens delims (reportText ((reports v s).map (decoded J))))
      ((decodedNames J s).map unheard) = (none, devices) ∧
    LinuxClient.processStatusMessage ⟨some, fun _ => 0⟩ (text.drop broadcastStatus.length) [] 0 =
      some (0, table, mallocs') ∧
    ∀ r ∈ reports v s, ∀ d ∈ devices, d.name = J.decode r.name → ∃ e ∈ table, Same r d e := by
  set server : LinkServer := ⟨⟨0, 0⟩, (decodedNames J s).map unheard⟩ with hServer
  have hNames : server.devicesControlled.map LinkDevice.name = decodedNames J s := by
    rw [hServer, List.map_map]
    exact List.map_id _
  obtain ⟨devices, table, mallocs', hParse, hLinux, -, hSame⟩ :=
    hAlike ⟨some, fun _ => 0⟩ [] 0 (fun _ _ => (none, [], 0)) server ⟨[server], 0⟩
      (fun _ => rfl) (fun _ hd => absurd hd List.not_mem_nil) List.nodup_nil
      (List.mem_singleton.mpr rfl) (List.Perm.of_eq hNames)
  refine ⟨devices, table, mallocs', ?_, hLinux, hSame⟩
  have hReports := reports_text hText
  rw [hReports] at hParse hLength
  rw [parseMessage_status _ server _ hLength] at hParse
  obtain ⟨hThrown, hList⟩ := Prod.mk.inj hParse
  have hServers := congrArg Listener.linkServers hList
  simp only [setDevicesControlled, List.map_cons, List.map_nil, if_true, List.cons.injEq,
    and_true] at hServers
  exact Prod.ext hThrown (congrArg LinkServer.devicesControlled hServers)

/-- Every device is found by some token, or it stays unknown. -/
theorem alike_token {r : Report} (hr : (reports v s)[i]? = some r) :
    ∃ token ∈ tokens delims (reportText ((reports v s).map (decoded J))),
      getDevice J token ((decodedNames J s).map unheard) = some i := by
  obtain ⟨devices, table, mallocs', hUpdate, -, hSame⟩ := alike_unheard hText hLength hAlike
  by_contra hNone
  have hUntouched : devices[i]? = ((decodedNames J s).map unheard)[i]? := by
    have hNever : ∀ token ∈ tokens delims (reportText ((reports v s).map (decoded J))),
        getDevice J token ((decodedNames J s).map unheard) ≠ some i :=
      fun token hToken hPlace => hNone ⟨token, hToken, hPlace⟩
    have hKept := updateDeviceStatus_untouched hNever
    rwa [hUpdate] at hKept
  rw [decodedNames_eq J v s, List.map_map, List.getElem?_map, hr] at hUntouched
  obtain ⟨e, -, hAgree⟩ := hSame r (List.mem_of_getElem? hr) _ (List.mem_of_getElem? hUntouched) rfl
  have hStatus := hAgree.javaStatus
  have hKnown : ∀ status, linkDeviceState status ≠ .unknown := by
    intro status
    cases status <;> decide
  exact hKnown _ hStatus.symm

/-- What finds a device is equal to its name but for the case, and to no name before it. -/
theorem alike_name {r : Report} (hr : (reports v s)[i]? = some r) :
    ∃ token : CStr, ' ' ∉ token ∧ token.map J.fold = (J.decode r.name).map J.fold ∧
      ∀ (j : Nat) (r' : Report), j < i → (reports v s)[j]? = some r' →
        token.map J.fold ≠ (J.decode r'.name).map J.fold := by
  obtain ⟨token, hToken, hPlace⟩ := alike_token hText hLength hAlike hr
  obtain ⟨d, hd, hName, hBefore⟩ := getDevice_some hPlace
  have hAt : ∀ (j : Nat) (x : Report), (reports v s)[j]? = some x →
      ((decodedNames J s).map unheard)[j]? = some (unheard (J.decode x.name)) := by
    intro j x hx
    rw [decodedNames_eq J v s, List.map_map, List.getElem?_map, hx]
    rfl
  obtain rfl := Option.some.inj ((hAt i r hr).symm.trans hd)
  refine ⟨token, fun hBlank => ?_, hName, fun j x hj hx => hBefore j _ hj (hAt j x hx)⟩
  have hDelim := not_delim_of_mem_tokens hToken ' ' hBlank
  exact absurd hDelim (by decide)

theorem alike_no_blank : ∀ r ∈ reports v s, ' ' ∉ r.name := by
  intro r hr hBlank
  obtain ⟨i, hi⟩ := List.mem_iff_getElem?.mp hr
  obtain ⟨token, hToken, hName, -⟩ := alike_name hText hLength hAlike hi
  have hDecoded : ' ' ∈ J.decode r.name := mem_decode_of_ascii (by decide) hBlank
  have hNot := not_equalsIgnoreCase_of_blank (J := J) hToken hDecoded
  rw [equalsIgnoreCase_iff.mpr hName] at hNot
  exact absurd hNot (by simp)

theorem alike_fold : ((decodedNames J s).map (List.map J.fold)).Nodup := by
  rw [decodedNames_eq J v s, List.map_map, List.nodup_iff_getElem?_ne_getElem?]
  intro j i hj hi hEq
  rw [List.length_map] at hi
  have hAt : ∀ k : Nat, k < (reports v s).length → ∃ r, (reports v s)[k]? = some r := fun k hk =>
    ⟨_, List.getElem?_eq_getElem hk⟩
  obtain ⟨r, hr⟩ := hAt i hi
  obtain ⟨r', hr'⟩ := hAt j (by omega)
  obtain ⟨token, -, hName, hBefore⟩ := alike_name hText hLength hAlike hr
  rw [List.getElem?_map, List.getElem?_map, hr, hr'] at hEq
  exact hBefore j r' hj hr' (hName.trans (Option.some.inj hEq).symm)

end Necessary

/-- **Both clients decode a broadcast alike**, and as the server meant it, exactly if no name
has a blank in it, no two names are equal but for the case, and the uptime and the number of
users of every device that is up fit an `int`. -/
theorem decoded_alike_iff (J : JavaLang) (v : World) (s s' : State) (text : CStr)
    (hText : statusMessage v s = (some text, s'))
    (hNames : ∀ d ∈ s.gDevices, LinuxClient.Sendable (s.dev d).deviceName)
    (hLength : text.length ≤ 399) :
    DecodedAlike J v s text ↔
      (∀ d ∈ s.gDevices, ' ' ∉ (s.dev d).deviceName) ∧
      ((decodedNames J s).map (List.map J.fold)).Nodup ∧
      ∀ r ∈ reports v s, r.status = .up → FitsInt r.uptime ∧ FitsInt r.users := by
  have hPacket : text.length ≤ Protocol.maxPacketSize := hLength.trans (by decide)
  have hSendable : ∀ r ∈ reports v s, LinuxClient.Sendable r.name := by
    intro r hr
    have hMem : r.name ∈ (reports v s).map Report.name := List.mem_map_of_mem hr
    rw [reports_names] at hMem
    obtain ⟨d, hd, hName⟩ := List.mem_map.mp hMem
    exact hName ▸ hNames d hd
  have hBlank : (∀ d ∈ s.gDevices, ' ' ∉ (s.dev d).deviceName) ↔
      ∀ r ∈ reports v s, ' ' ∉ r.name := by
    have hAll := List.forall_mem_map (l := reports v s) (f := Report.name) (P := fun n => ' ' ∉ n)
    rw [← hAll, reports_names]
    exact (List.forall_mem_map (f := fun d => (s.dev d).deviceName) (P := fun n => ' ' ∉ n)).symm
  rw [hBlank]
  constructor
  · intro hAlike
    have hNoBlank := alike_no_blank hText hPacket hAlike
    have hFold := alike_fold hText hPacket hAlike
    refine ⟨hNoBlank, hFold, fun r hr hUp => ?_⟩
    obtain ⟨devices, table, mallocs', hUpdate, -, hSame⟩ := alike_unheard hText hPacket hAlike
    have hHeld : (((decodedNames J s).map unheard).map LinkDevice.name) = decodedNames J s := by
      rw [List.map_map]
      exact List.map_id _
    obtain ⟨hAll, hHeard⟩ := updateDeviceStatus_heard
      (fun r hr => isToken_decode (hSendable r hr) (hNoBlank r hr)) hFold
      (List.Perm.of_eq hHeld)
    rw [hUpdate] at hAll
    obtain rfl : devices = _ := congrArg Prod.snd hAll
    have hMem : J.decode r.name ∈ (hearAll J ((reports v s).map (decoded J))
        ((decodedNames J s).map unheard)).map LinkDevice.name := by
      rw [hearAll_names, hHeld, decodedNames_eq J v s]
      exact List.mem_map_of_mem hr
    obtain ⟨d, hd, hName⟩ := List.mem_map.mp hMem
    obtain ⟨e, -, hAgree⟩ := hSame r hr d hd hName
    obtain ⟨old, rfl⟩ := hHeard r hr d hd hName
    have hTime := hAgree.javaConnectTime.trans hAgree.connectTime
    have hUsers := hAgree.javaNumUsers.trans (congrArg Int.ofNat hAgree.noUsers)
    simp only [heard, LinkDevice.setStatus, hUp, if_true] at hTime hUsers
    exact ⟨toInt_eq_iff.mp hTime, toInt_eq_iff.mp hUsers⟩
  · intro hConditions w pp mallocs request server l hMemory hNamed _ _ hHeld
    obtain ⟨hNoBlank, hFold, hFits⟩ := hConditions
    obtain ⟨hUpdate, hHeard⟩ := updateDeviceStatus_heard
      (fun r hr => isToken_decode (hSendable r hr) (hNoBlank r hr)) hFold hHeld
    obtain ⟨mallocs', hLinux⟩ :=
      LinuxClient.processStatusMessage_reports hMemory hSendable hNamed mallocs
    have hReports := reports_text hText
    rw [hReports] at hPacket ⊢
    refine ⟨hearAll J ((reports v s).map (decoded J)) server.devicesControlled,
      Keyed.placeAll LinuxClient.Device.deviceName ((reports v s).map LinuxClient.received) pp,
      mallocs', ?_, ?_, hearAll_names .., fun r hr d hd hName => ?_⟩
    · rw [parseMessage_status _ server _ hPacket, hUpdate]
    · rw [List.drop_left]
      exact hLinux
    · obtain ⟨old, rfl⟩ := hHeard r hr d hd hName
      exact ⟨LinuxClient.received r, Keyed.mem_placeAll (received_distinct hFold)
        (List.mem_map_of_mem hr), same_heard old (hFits r hr)⟩

/-- The server whose device `ppp0` is up. -/
theorem decoded_alike_up :
    DecodedAlike asciiJava (calmWorld 1 []) LinuxClient.upServer
        ((statusMessage (calmWorld 1 []) LinuxClient.upServer).1.getD []) ↔
      (∀ d ∈ LinuxClient.upServer.gDevices, ' ' ∉ (LinuxClient.upServer.dev d).deviceName) ∧
      ((decodedNames asciiJava LinuxClient.upServer).map (List.map asciiJava.fold)).Nodup ∧
      ∀ r ∈ reports (calmWorld 1 []) LinuxClient.upServer, r.status = .up →
        FitsInt r.uptime ∧ FitsInt r.users :=
  decoded_alike_iff asciiJava (calmWorld 1 []) LinuxClient.upServer _ _
    (Prod.ext (by decide +kernel) rfl) (by decide +kernel) (by decide +kernel)

/-- A server with a device `my modem`. -/
def modemServer : State :=
  boot (calmWorld 1 []) [{ pppSection with name := some "my modem".toList }]

/-- The Java client takes `my` for a device of state `modem`, and `DOWN` for a device whose
state is missing. -/
theorem decoded_not_alike :
    (statusMessage (calmWorld 1 []) modemServer).1 =
      some (broadcastStatus ++ "my modem\tDOWN\n".toList) ∧
    (parseMessage asciiJava (fun _ _ => (none, [], 0))
      (packetData (broadcastStatus ++ "my modem\tDOWN\n".toList))
      ⟨⟨0, 0⟩, [unheard "my modem".toList]⟩ ⟨[⟨⟨0, 0⟩, [unheard "my modem".toList]⟩], 0⟩).1 =
        some .noSuchElement ∧
    ¬ DecodedAlike asciiJava (calmWorld 1 []) modemServer
      (broadcastStatus ++ "my modem\tDOWN\n".toList) := by
  refine ⟨by decide +kernel, by decide +kernel, fun hAlike => ?_⟩
  have hText : statusMessage (calmWorld 1 []) modemServer =
      (some (broadcastStatus ++ "my modem\tDOWN\n".toList),
        (statusMessage (calmWorld 1 []) modemServer).2) := Prod.ext (by decide +kernel) rfl
  have hNoBlank := alike_no_blank hText (by decide) hAlike
  exact absurd hNoBlank (by decide +kernel)

end LinkControl.JavaClient
