import LinkControl.JavaClient.Packets
import LinkControl.LinuxClient.RoundTrip
import LinkControl.Server.DeviceList

/-!
# Java client — is this client connected?

`refreshClientStatus ()` on the reply that `send_client_status` sends. The names come with
tabs between them, and the tokenizer stops at blanks as well: what it compares with the name
of the device are the words of the names (`clientWords`), and the last of them has lost what
`trim ()` has taken off the end of the reply (`trimmed`).

`client_status_iff` says for which names the answer is right.
-/

namespace LinkControl.JavaClient

open Tokens

variable {J : JavaLang}

-- ---------------------------------------------------------------------------
-- The words of the names
-- ---------------------------------------------------------------------------

/-- The names that are left when blanks and control characters are trimmed off the end of a
list with tabs. -/
def trimmed : List CStr → List CStr
  | [] => []
  | name :: rest =>
    match trimmed rest with
    | [] => if name.rdropWhile (· ≤ ' ') = [] then [] else [name.rdropWhile (· ≤ ' ')]
    | next :: rest => name :: next :: rest

/-- What the client compares with the name of a device. -/
def clientWords (J : JavaLang) (names : List CStr) : List CStr :=
  (trimmed (names.map J.decode)).flatMap (tokens nameDelims)

/-- The client finds the name if it is listed, and does not find it if it is not: a listed
name has no blank and, if it ends with a control character, is among the words all the
same; another name is not among them. -/
def Readable (J : JavaLang) (names : List CStr) (name : CStr) : Prop :=
  if names.contains name then
    ' ' ∉ name ∧
      ((∀ c ∈ (J.decode name).getLast?, c ≤ ' ') → J.decode name ∈ clientWords J names)
  else J.decode name ∉ clientWords J names

theorem trimmed_eq_nil {names : List CStr} :
    trimmed names = [] ↔ ∀ c ∈ nameList names, c ≤ ' ' := by
  induction names with
  | nil => simp [trimmed, nameList]
  | cons name rest ih =>
    have hName : name.rdropWhile (· ≤ ' ') = [] ↔ ∀ c ∈ name, c ≤ ' ' := by
      simp [List.rdropWhile_eq_nil_iff]
    rw [trimmed]
    cases rest with
    | nil =>
      simp only [trimmed, ite_eq_left_iff, List.cons_ne_nil, imp_false, not_not, hName, nameList,
        List.flatMap_nil, List.append_nil]
    | cons next rest =>
      rw [nameList_cons_cons]
      cases hRest : trimmed (next :: rest) with
      | nil =>
        have hBlank := ih.mp hRest
        simp only [ite_eq_left_iff, List.cons_ne_nil, imp_false, not_not, hName]
        constructor
        · intro h c hc
          rcases List.mem_append.mp hc with hc | hc
          · exact h c hc
          · rcases List.mem_cons.mp hc with rfl | hc
            · decide
            · exact hBlank c hc
        · exact fun h c hc => h c (List.mem_append_left _ hc)
      | cons first others =>
        refine iff_of_false (by simp) fun h => ?_
        have hNil := ih.mpr fun c hc => h c (List.mem_append_right _ (List.mem_cons_of_mem _ hc))
        rw [hRest] at hNil
        exact absurd hNil (by simp)

/-- Trimming the list trims the names. -/
theorem tokens_trimmed (names : List CStr) :
    tokens nameDelims ((nameList names).rdropWhile (· ≤ ' ')) =
      (trimmed names).flatMap (tokens nameDelims) := by
  induction names with
  | nil => rfl
  | cons name rest ih =>
    have hOne : tokens nameDelims (name.rdropWhile (· ≤ ' ')) =
        (if name.rdropWhile (· ≤ ' ') = [] then [] else [name.rdropWhile (· ≤ ' ')]).flatMap
          (tokens nameDelims) := by
      split
      · rename_i hNil
        rw [hNil]
        rfl
      · simp
    rw [trimmed]
    cases rest with
    | nil =>
      rw [show nameList [name] = name from by simp [nameList], hOne]
      rfl
    | cons next rest =>
      rw [nameList_cons_cons]
      cases hRest : trimmed (next :: rest) with
      | nil =>
        have hBlank := trimmed_eq_nil.mp hRest
        rw [rdropWhile_append_pos, hOne]
        intro c hc
        rcases List.mem_cons.mp hc with rfl | hc
        · decide
        · exact decide_eq_true (hBlank c hc)
      | cons first others =>
        have hMore : (nameList (next :: rest)).rdropWhile (· ≤ ' ') ≠ [] := by
          intro hNil
          have hBlank : ∀ c ∈ nameList (next :: rest), c ≤ ' ' := by
            simpa [List.rdropWhile_eq_nil_iff] using hNil
          rw [trimmed_eq_nil.mpr hBlank] at hRest
          exact absurd hRest (by simp)
        have hDrop : (name ++ '\t' :: nameList (next :: rest)).rdropWhile (· ≤ ' ') =
            name ++ '\t' :: (nameList (next :: rest)).rdropWhile (· ≤ ' ') := by
          have hAppend := rdropWhile_append_of_ne_nil (l := name ++ ['\t']) hMore
          rwa [List.append_assoc, List.append_assoc] at hAppend
        rw [hDrop, tokens_append_delim (by decide), ih, hRest]
        rfl

/-- A name that does not end with a blank is left as it is. -/
theorem mem_trimmed {names : List CStr} {name : CStr} (hMem : name ∈ names)
    (hLast : ∃ c ∈ name.getLast?, ¬ c ≤ ' ') : name ∈ trimmed names := by
  induction names with
  | nil => exact absurd hMem List.not_mem_nil
  | cons first rest ih =>
    rw [trimmed]
    rcases List.mem_cons.mp hMem with rfl | hMem
    · obtain ⟨c, hc, hNot⟩ := hLast
      have hNe : name ≠ [] := by
        rintro rfl
        exact absurd hc (by simp)
      have hSame : name.rdropWhile (· ≤ ' ') = name := by
        have hKeep := rdropWhile_append_neg (p := fun c => decide (c ≤ ' ')) (r := []) hNe
          fun x hx => by
            obtain rfl : c = x := Option.some.inj ((Option.mem_def.mp hc).symm.trans hx)
            simpa using hNot
        simpa using hKeep
      cases trimmed rest with
      | nil => simp [hSame, hNe]
      | cons next others => exact List.mem_cons_self ..
    · have hRest := ih hMem
      cases hTrimmed : trimmed rest with
      | nil =>
        rw [hTrimmed] at hRest
        exact absurd hRest List.not_mem_nil
      | cons next others =>
        rw [hTrimmed] at hRest
        exact List.mem_cons_of_mem _ hRest

-- ---------------------------------------------------------------------------
-- The reply
-- ---------------------------------------------------------------------------

theorem decode_nameList (J : JavaLang) (names : List CStr) :
    J.decode (nameList names) = nameList (names.map J.decode) := by
  induction names with
  | nil => exact J.decode_nil
  | cons name rest ih =>
    cases rest with
    | nil => simp [nameList]
    | cons next rest =>
      rw [nameList_cons_cons, J.decode_ascii name '\t' _ (by decide), ih]
      exact (nameList_cons_cons ..).symm

/-- The two words that the reply starts with. -/
def clientStatusWords : CStr := Protocol.serverPrefix ++ [' '] ++ Protocol.serverClientStatus

theorem serverClientStatus_eq : serverClientStatus = clientStatusWords ++ [' '] := rfl

/-- What the tokenizer finds in the reply. -/
theorem tokens_reply {text : CStr} {names : List CStr}
    (hLength : text.length ≤ Protocol.maxPacketSize)
    (hText : text = serverClientStatus ++ nameList names) :
    (getMessage J (some text)).map (tokens nameDelims) =
      some (Protocol.serverPrefix :: Protocol.serverClientStatus :: clientWords J names) := by
  have hAscii : ∀ c ∈ serverClientStatus, c.toNat < 128 := by decide
  have hBehind : tokens nameDelims ((' ' :: nameList (names.map J.decode)).rdropWhile (· ≤ ' ')) =
      clientWords J names := by
    rw [clientWords, ← tokens_trimmed]
    by_cases hNil : (nameList (names.map J.decode)).rdropWhile (· ≤ ' ') = []
    · have hBlank : ∀ c ∈ nameList (names.map J.decode), decide (c ≤ ' ') = true := by
        rw [← List.rdropWhile_eq_nil_iff]
        exact hNil
      have hDrop := rdropWhile_append_pos (l := [' ']) hBlank
      rw [hNil]
      rw [List.singleton_append] at hDrop
      rw [hDrop]
      rfl
    · have hDrop := rdropWhile_append_of_ne_nil (l := [' ']) hNil
      rw [List.singleton_append] at hDrop
      rw [hDrop, List.singleton_append, tokens, if_pos (by decide)]
  have hEnds : Ends nameDelims ((' ' :: nameList (names.map J.decode)).rdropWhile (· ≤ ' ')) :=
    ends_rdropWhile (c := ' ') rfl _ _
  rw [getMessage, Option.map_some, Option.map_some, trim_decode_packetData J hLength, hText,
    decode_append J hAscii, serverClientStatus_eq, decode_nameList, List.append_assoc,
    trim_append (by decide) (by decide) (by decide)]
  show some (tokens nameDelims ((Protocol.serverPrefix ++ [' '] ++ Protocol.serverClientStatus) ++ _)) = _
  rw [List.append_assoc, List.append_assoc, List.singleton_append, List.singleton_append,
    tokens_append_cons (by decide) (by decide) (by decide), tokens_append (by decide) (by decide) hEnds,
    hBehind]

/-- The answer is whether the name is among the words. -/
theorem refreshClientStatus_reply {text name : CStr} {names : List CStr}
    (hLength : text.length ≤ Protocol.maxPacketSize)
    (hText : text = serverClientStatus ++ nameList names) :
    refreshClientStatus J name (some text) =
      .ok (if (clientWords J names).contains name then .connected else .disconnected) := by
  have hTokens := tokens_reply (J := J) hLength hText
  obtain ⟨reply, hReply, hEq⟩ := Option.map_eq_some_iff.mp hTokens
  unfold refreshClientStatus
  rw [hReply]
  simp only [hEq, ne_eq, not_true_eq_false, if_false, List.contains_iff_mem]
  split <;> rfl

-- ---------------------------------------------------------------------------
-- The answer
-- ---------------------------------------------------------------------------

/-- A word of the names has no blank in it. -/
theorem no_blank_of_mem {names : List CStr} {word : CStr} (h : word ∈ clientWords J names) :
    ' ' ∉ word := by
  obtain ⟨name, -, hToken⟩ := List.mem_flatMap.mp h
  intro hBlank
  have hNot := not_delim_of_mem_tokens hToken ' ' hBlank
  exact absurd hNot (by decide)

/-- A listed name without a blank, and with nothing at its end that is trimmed off, is a
word. -/
theorem mem_clientWords {names : List CStr} {name : CStr} (hMem : name ∈ names)
    (hName : LinuxClient.Sendable name) (hBlank : ' ' ∉ name)
    (hLast : ∃ c ∈ (J.decode name).getLast?, ¬ c ≤ ' ') : J.decode name ∈ clientWords J names := by
  obtain ⟨hNe, hTab, -⟩ := hName
  have hDecoded : J.decode name ≠ [] := fun hNil => hNe ((J.decode_eq_nil name).mp hNil)
  have hToken : ∀ c ∈ J.decode name, nameDelims c = false := by
    intro c hc
    by_contra hDelim
    simp only [nameDelims, Bool.not_eq_false, decide_eq_true_eq] at hDelim
    rcases hDelim with rfl | rfl
    · exact not_mem_decode J (by decide) hBlank hc
    · exact not_mem_decode J (by decide) hTab hc
  have hOne : tokens nameDelims (J.decode name) = [J.decode name] := by
    have hAppend : tokens nameDelims (J.decode name ++ []) =
        J.decode name :: tokens nameDelims [] := tokens_append hDecoded hToken (by simp [Ends])
    rwa [List.append_nil] at hAppend
  refine List.mem_flatMap.mpr ⟨J.decode name, mem_trimmed (List.mem_map_of_mem hMem) hLast, ?_⟩
  rw [hOne]
  exact List.mem_singleton_self _

theorem readable_iff {names : List CStr} {name : CStr}
    (hNames : ∀ n ∈ names, LinuxClient.Sendable n) :
    Readable J names name ↔ (J.decode name ∈ clientWords J names ↔ name ∈ names) := by
  unfold Readable
  by_cases hMem : name ∈ names
  · rw [if_pos (List.contains_iff_mem.mpr hMem), iff_true_right hMem]
    constructor
    · intro ⟨hBlank, hControl⟩
      by_cases hLast : ∀ c ∈ (J.decode name).getLast?, c ≤ ' '
      · exact hControl hLast
      · push Not at hLast
        exact mem_clientWords hMem (hNames name hMem) hBlank (by simpa using hLast)
    · intro hWord
      exact ⟨fun hBlank => no_blank_of_mem hWord (mem_decode_of_ascii (by decide) hBlank),
        fun _ => hWord⟩
  · rw [if_neg (fun h => hMem (List.contains_iff_mem.mp h)), iff_false_right hMem]

/-- **Is this client connected to the device?** On the reply of `send_client_status`, the
answer is right exactly if the name is readable among the names of the list. -/
theorem client_status_iff (J : JavaLang) (v : World) (client : CliPtr) (s : State)
    (peer : SockAddr) (text name : CStr)
    (hSent : (sendClientStatus v client s).2.sent = (peer, text) :: s.sent)
    (hLength : text.length ≤ Protocol.maxPacketSize)
    (hNames : ∀ n ∈ connectedNames client s, LinuxClient.Sendable n) :
    refreshClientStatus J (J.decode name) (some text) =
        .ok (if (connectedNames client s).contains name then .connected else .disconnected) ↔
      Readable J (connectedNames client s) name := by
  rw [readable_iff hNames, refreshClientStatus_reply hLength (sendClientStatus_sent hSent)]
  by_cases hWord : J.decode name ∈ clientWords J (connectedNames client s) <;>
    by_cases hMem : name ∈ connectedNames client s <;> simp [hWord, hMem]

/-- A client that is connected to the two devices `isdn0` and `my ppp`. -/
def pppClient : State :=
  serverRun (calmWorld 1 []) defaultConfig
    [.client ⟨1, 1026⟩ (clientUp ++ "isdn0".toList), .client ⟨1, 1026⟩ (clientUp ++ "my ppp".toList)]
    (boot (calmWorld 1 []) [{ pppSection with name := some "isdn0".toList },
      { pppSection with name := some "my ppp".toList }, { pppSection with name := some "ppp".toList }])

/-- The client of `isdn0` and `my ppp` is told that it is connected to `isdn0`. -/
theorem client_status_isdn :
    refreshClientStatus asciiJava (asciiJava.decode "isdn0".toList)
        (some (serverClientStatus ++ "isdn0\tmy ppp".toList)) =
        .ok (if (connectedNames 3 pppClient).contains "isdn0".toList then .connected
          else .disconnected) ↔
      Readable asciiJava (connectedNames 3 pppClient) "isdn0".toList :=
  client_status_iff asciiJava (calmWorld 1 []) 3 pppClient ⟨1, 1026⟩ _ _ (by decide +kernel)
    (by decide +kernel) (by decide +kernel)

/-- It is told that it is not connected to `my ppp`, and connected to `ppp`. -/
theorem client_status_wrong :
    (sendClientStatus (calmWorld 1 []) 3 pppClient).2.sent =
      (⟨1, 1026⟩, serverClientStatus ++ "isdn0\tmy ppp".toList) :: pppClient.sent ∧
    connectedNames 3 pppClient = ["isdn0".toList, "my ppp".toList] ∧
    refreshClientStatus asciiJava (asciiJava.decode "my ppp".toList)
      (some (serverClientStatus ++ "isdn0\tmy ppp".toList)) = .ok .disconnected ∧
    refreshClientStatus asciiJava (asciiJava.decode "ppp".toList)
      (some (serverClientStatus ++ "isdn0\tmy ppp".toList)) = .ok .connected :=
  ⟨by decide +kernel, by decide +kernel, by decide +kernel, by decide +kernel⟩

end LinkControl.JavaClient
