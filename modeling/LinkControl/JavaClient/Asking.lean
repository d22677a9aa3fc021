import LinkControl.JavaClient.ClientStatus
import LinkControl.Server.Exchange
import Mathlib.Algebra.Order.BigOperators.Group.List
import Mathlib.Data.List.Perm.Subperm

/-!
# Java client — asking a server that is busy

`refreshClientStatus ()` opens a socket, posts its question, and takes the first reply that comes
in time. Meanwhile the server goes on serving others, and the network loses, repeats and delays
what is posted.

`client_status_was_so` — a client that is told anything is told what was so: at some time between
its question and the reply, the device was on the record of its address at the server exactly if
the client takes itself to be connected.

The names have to be such that the client finds them again in a list (`Legible`).
-/

namespace LinkControl

/-- The server has the device with this name on record for the client at this address. -/
def OnRecord (a : Nat) (name : CStr) (s : State) : Prop :=
  ∃ c ∈ s.gClients, (s.cli c).sa.addr = a ∧ name ∈ connectedNames c s

instance (a : Nat) (name : CStr) (s : State) : Decidable (OnRecord a name s) :=
  inferInstanceAs (Decidable (∃ c ∈ s.gClients, _ ∧ _))

namespace JavaClient

open Tokens

/-- What `refreshClientStatus ()` sends:
`protocol.clientPrefix + " " + protocol.clientClientStatus`. -/
def statusRequest : CStr := "CLIENT".toList ++ " ".toList ++ "CLIENT_STATUS".toList

/-- The names have no white space in them and do not end with a control character, none but the
name itself is taken for the name, and all of them fit one reply. -/
def Legible (J : JavaLang) (names : List CStr) (name : CStr) : Prop :=
  (∀ n ∈ names, LinuxClient.Sendable n ∧ ' ' ∉ n ∧
    (J.decode n).rdropWhile (· ≤ ' ') = J.decode n ∧ (J.decode n = J.decode name → n = name)) ∧
  serverClientStatus.length + (names.map fun n => n.length + 1).sum ≤ Protocol.maxPacketSize

instance (J : JavaLang) (names : List CStr) (name : CStr) : Decidable (Legible J names name) :=
  inferInstanceAs (Decidable (_ ∧ _))

variable {J : JavaLang} {w : World} {cfg : Config} {group : Option SockAddr} {terminated : Bool}
  {sections : List DeviceSection} {names : List CStr} {name : CStr} {c : CliPtr} {s s' : State}

-- ---------------------------------------------------------------------------
-- Legible lists
-- ---------------------------------------------------------------------------

/-- Names that do not end with what is trimmed off stay as they are. -/
theorem trimmed_eq_self (h : ∀ n ∈ names, n ≠ [] ∧ n.rdropWhile (· ≤ ' ') = n) :
    trimmed names = names := by
  induction names with
  | nil => rfl
  | cons n rest ih =>
    obtain ⟨hNe, hEnd⟩ := h n (List.mem_cons_self ..)
    rw [trimmed, ih fun x hx => h x (List.mem_cons_of_mem _ hx)]
    cases rest with
    | nil => simp [hEnd, hNe]
    | cons next rest => rfl

theorem tokens_word {delim : Char → Bool} {word : CStr} (hNe : word ≠ [])
    (hWord : ∀ c ∈ word, delim c = false) : tokens delim word = [word] := by
  have hOne : tokens delim (word ++ []) = word :: tokens delim [] :=
    tokens_append hNe hWord (by simp [Ends])
  rwa [List.append_nil] at hOne

/-- The words of a list of legible names are the names. -/
theorem clientWords_legible {listed : List CStr} (h : Legible J names name) (hSub : listed ⊆ names) :
    clientWords J listed = listed.map J.decode := by
  have hDecoded : ∀ n ∈ listed.map J.decode, n ≠ [] ∧ n.rdropWhile (· ≤ ' ') = n ∧
      ∀ c ∈ n, nameDelims c = false := by
    intro n hn
    obtain ⟨n', hn', rfl⟩ := List.mem_map.mp hn
    obtain ⟨⟨hNe, hTab, -⟩, hBlank, hEnd, -⟩ := h.1 n' (hSub hn')
    refine ⟨fun hNil => hNe ((J.decode_eq_nil n').mp hNil), hEnd, fun c hc => ?_⟩
    by_contra hDelim
    simp only [nameDelims, Bool.not_eq_false, decide_eq_true_eq] at hDelim
    rcases hDelim with rfl | rfl
    · exact not_mem_decode J (by decide) hBlank hc
    · exact not_mem_decode J (by decide) hTab hc
  rw [clientWords, trimmed_eq_self fun n hn => ⟨(hDecoded n hn).1, (hDecoded n hn).2.1⟩]
  generalize listed.map J.decode = words at hDecoded
  induction words with
  | nil => rfl
  | cons word rest ih =>
    obtain ⟨hNe, -, hWord⟩ := hDecoded word (List.mem_cons_self ..)
    rw [List.flatMap_cons, tokens_word hNe hWord, ih fun n hn => hDecoded n (List.mem_cons_of_mem _ hn)]
    rfl

/-- **The client finds a legible name** exactly if it is listed. -/
theorem mem_clientWords_legible {listed : List CStr} (h : Legible J names name)
    (hSub : listed ⊆ names) : J.decode name ∈ clientWords J listed ↔ name ∈ listed := by
  rw [clientWords_legible h hSub]
  constructor
  · intro hMem
    obtain ⟨n, hn, hSame⟩ := List.mem_map.mp hMem
    exact (h.1 n (hSub hn)).2.2.2 hSame ▸ hn
  · exact List.mem_map_of_mem

theorem length_nameList_le (names : List CStr) :
    (nameList names).length ≤ (names.map fun n => n.length + 1).sum := by
  cases names with
  | nil => exact Nat.zero_le _
  | cons n rest =>
    have hRest : (rest.flatMap ('\t' :: ·)).length = (rest.map fun n => n.length + 1).sum := by
      simp [List.length_flatMap]
    rw [nameList, List.length_append, hRest, List.map_cons, List.sum_cons]
    omega

/-- A reply that lists each name once at most fits the packet. -/
theorem length_reply_legible {listed : List CStr} (h : Legible J names name) (hNodup : listed.Nodup)
    (hSub : listed ⊆ names) :
    (serverClientStatus ++ nameList listed).length ≤ Protocol.maxPacketSize := by
  obtain ⟨l, hPerm, hSublist⟩ := List.subperm_of_subset hNodup hSub
  have hSum : (listed.map fun n => n.length + 1).sum ≤ (names.map fun n => n.length + 1).sum := by
    rw [← (hPerm.map _).sum_eq]
    exact (hSublist.map _).sum_le_sum fun _ _ => Nat.zero_le _
  have hList := length_nameList_le listed
  have hFits := h.2
  rw [List.length_append]
  omega

-- ---------------------------------------------------------------------------
-- The record of a client
-- ---------------------------------------------------------------------------

/-- What the server has on record for a client that asks are devices, each once. -/
theorem connectedNames_asked (h : WellFormed s) {me : SockAddr}
    (hAsked : asked w me s = some (c, s')) :
    (connectedNames c s').Nodup ∧ connectedNames c s' ⊆ deviceNames s := by
  unfold asked at hAsked
  rcases knownClient_cases w me s with ⟨c', hEq, hc, -⟩ | ⟨c', s₁, hEq, hj, -⟩ | ⟨s₁, hEq, -⟩ <;>
    rw [hEq] at hAsked
  · obtain ⟨rfl, rfl⟩ : c' = c ∧ updateClient w c' me s = s' := by simpa using hAsked
    have hNames : connectedNames c' (updateClient w c' me s) = connectedNames c' s := by
      simp [connectedNames]
    rw [hNames]
    refine ⟨(h.devicesNodup c' hc).map_on fun d hd d' hd' hName => ?_, ?_⟩
    · exact h.device_ext (h.devicesKnown c' hc d hd) (h.devicesKnown c' hc d' hd') hName
    · exact List.map_subset _ fun d hd => h.devicesKnown c' hc d hd
  · obtain ⟨rfl, rfl⟩ : c' = c ∧ updateClient w c' me s₁ = s' := by simpa using hAsked
    have hNone : connectedNames c' (updateClient w c' me s₁) = [] := by
      simp [connectedNames, hj.devices]
    rw [hNone]
    exact ⟨List.nodup_nil, List.nil_subset _⟩
  · exact absurd hAsked (by simp)

/-- **The record of a client that asks** is the one of its address. -/
theorem onRecord_asked (h : WellFormed s) {me : SockAddr} (hAsked : asked w me s = some (c, s')) :
    name ∈ connectedNames c s' ↔ OnRecord me.addr name s := by
  unfold asked at hAsked
  rcases knownClient_cases w me s with ⟨c', hEq, hc, hAddr⟩ | ⟨c', s₁, hEq, hj, hSa, -⟩ |
    ⟨s₁, hEq, -⟩ <;> rw [hEq] at hAsked
  · obtain ⟨rfl, rfl⟩ : c' = c ∧ updateClient w c' me s = s' := by simpa using hAsked
    have hNames : connectedNames c' (updateClient w c' me s) = connectedNames c' s := by
      simp [connectedNames]
    rw [hNames]
    constructor
    · exact fun hName => ⟨c', hc, hAddr, hName⟩
    · rintro ⟨x, hx, hSame, hName⟩
      rwa [h.client_ext hx hc (hSame.trans hAddr.symm)] at hName
  · obtain ⟨rfl, rfl⟩ : c' = c ∧ updateClient w c' me s₁ = s' := by simpa using hAsked
    refine iff_of_false (by simp [connectedNames, hj.devices]) ?_
    rintro ⟨x, hx, hSame, -⟩
    exact hj.addr x hx (hSame.trans (congrArg SockAddr.addr hSa).symm)
  · exact absurd hAsked (by simp)

/-- The answer to the question of `refreshClientStatus ()`. -/
theorem statusRequest_answer {text : CStr}
    (h : replyText w c (recvBuffer statusRequest) s = some text) :
    text = serverClientStatus ++ nameList (connectedNames c s) := by
  have hMessage : clientMessage (recvBuffer statusRequest) = .clientStatus := by decide
  unfold replyText at h
  rw [hMessage] at h
  exact (Option.some.inj h).symm

-- ---------------------------------------------------------------------------
-- What the client is told
-- ---------------------------------------------------------------------------

/-- **What the client is told was so.** In every exchange with a server whose names are legible,
whatever is lost, repeated or delayed, and whatever fails: if a reply comes to a socket that has
posted the question of `refreshClientStatus ()` and nothing else, the server has begun a turn
since then in which the client takes itself to be connected to the device exactly if the server
had it on record for the address of the client. -/
theorem client_status_was_so (J : JavaLang) (w : World) (cfg : Config) (group : Option SockAddr)
    (terminated : Bool) (sections : List DeviceSection) (before after : List Hop) (me : SockAddr)
    (text name : CStr) (hNames : Legible J (deviceNames (boot w sections)) name)
    (hOnce : ∀ m, .post (me, m) ∉ before ++ after)
    (hGenuine : Runs.Along (hop w cfg group) Genuine
      (before ++ .post (me, statusRequest) :: after) (opened w group terminated sections))
    (hReply : (me, text) ∈ replies (exchange w cfg group terminated sections
      (before ++ .post (me, statusRequest) :: after)).process.server) :
    ∃ middle t rest, after = middle ++ .turn t :: rest ∧
      refreshClientStatus J (J.decode name) (some text) =
        .ok (if OnRecord me.addr name (exchange w cfg group terminated sections
            (before ++ .post (me, statusRequest) :: middle)).process.server
          then .connected else .disconnected) := by
  obtain ⟨middle, t, rest, hAfter, datagram, c, s₁, hSelected, hAsked, hText⟩ :=
    reply_origin hOnce hGenuine hReply
  refine ⟨middle, t, rest, hAfter, ?_⟩
  set s := (exchange w cfg group terminated sections
    (before ++ .post (me, statusRequest) :: middle)).process.server with hs
  obtain ⟨hWellFormed, hSame⟩ : WellFormed s ∧ deviceNames s = deviceNames (boot w sections) := by
    have hKept := deviceNames_kept w cfg (deviceNames (boot w sections))
    exact exchange_invariant hKept.quiet
      (fun e h => hKept.step h (calls_of_forall (fun _ _ => trivial) e _))
      ⟨(booted_boot w sections).wellFormed, rfl⟩ _
  have hNow : WellFormed (advance w s) := hWellFormed.quiet (quiet_advance w s)
  obtain ⟨hNodup, hListed⟩ := connectedNames_asked hNow hAsked
  have hSub : connectedNames c s₁ ⊆ deviceNames (boot w sections) := hSame ▸ hListed
  have hRecord : name ∈ connectedNames c s₁ ↔ OnRecord me.addr name s :=
    onRecord_asked hNow hAsked
  have hRequest : statusRequest = datagram := by simpa using hSelected
  have hReplied := statusRequest_answer (hRequest ▸ hText)
  have hLength := length_reply_legible hNames hNodup hSub
  have hListedIff : (clientWords J (connectedNames c s₁)).contains (J.decode name) = true ↔
      OnRecord me.addr name s :=
    calc (clientWords J (connectedNames c s₁)).contains (J.decode name) = true
      _ ↔ J.decode name ∈ clientWords J (connectedNames c s₁) := List.contains_iff_mem
      _ ↔ name ∈ connectedNames c s₁ := mem_clientWords_legible hNames hSub
      _ ↔ OnRecord me.addr name s := hRecord
  rw [refreshClientStatus_reply (hReplied ▸ hLength) hReplied]
  simp only [hListedIff]

/-- Another socket of the address asks for `ppp0`, and the server reads that before it reads the
question. -/
def upThenAsked : List Hop × List Hop :=
  ([.post (⟨1, 1026⟩, clientUp ++ "ppp0".toList)],
    [.turn (turnOf (clientUp ++ "ppp0".toList) 1),
      .turn ⟨.readable (some (⟨1, 2000⟩, statusRequest)), false⟩])

/-- A client that has asked for the device and then for its status is told that it is connected,
and it is. -/
theorem client_status_was_so_connected :
    refreshClientStatus asciiJava "ppp0".toList (some (serverClientStatus ++ "ppp0".toList)) =
        .ok .connected ∧
      ∃ middle t rest, upThenAsked.2 = middle ++ .turn t :: rest ∧
        refreshClientStatus asciiJava (asciiJava.decode "ppp0".toList)
            (some (serverClientStatus ++ "ppp0".toList)) =
          .ok (if OnRecord 1 "ppp0".toList (exchange (calmWorld 1 []) defaultConfig none false
              [pppSection] (upThenAsked.1 ++ .post (⟨1, 2000⟩, statusRequest) :: middle)
              ).process.server
            then .connected else .disconnected) := by
  refine ⟨by decide +kernel, client_status_was_so asciiJava (calmWorld 1 []) defaultConfig none
    false [pppSection] upThenAsked.1 upThenAsked.2 ⟨1, 2000⟩ _ "ppp0".toList (by decide +kernel)
    (fun m => by simp [upThenAsked, turnOf]) ?_ (by decide +kernel)⟩
  simp [upThenAsked, Runs.Along, Genuine, hop, opened, turnOf]

end JavaClient

end LinkControl
