import LinkControl.JavaClient.Definitions
import Mathlib.Data.Nat.Find

/-!
# Java client — waiting for a reply

`serverCommunicator.getMessage ()`: a `receive ()` in a loop, with the timeout doubled in the
`catch` and set back to the initial one in the `finally` of the same `try`. The socket is
open, so that a `receive ()` either returns a packet or times out.

* `getMessage_reply` — what the rest of the client takes `getMessage ()` for.
* `back_off_iff` — the timeouts are the documented ones only if there is no second wait.
-/

namespace LinkControl.JavaClient.ServerCommunicator

-- ---------------------------------------------------------------------------
-- DatagramSocket
-- ---------------------------------------------------------------------------

/-- `Socket`: its timeout, and the timeouts of the waits so far, the first one first. -/
structure Socket where
  soTimeout : Int
  waits : List Int
deriving DecidableEq, Repr

/-- `Socket.setSoTimeout ()`; `none` for an `IllegalArgumentException`. -/
def setSoTimeout (timeout : Int) (socket : Socket) : Option Socket :=
  if timeout < 0 then none else some { socket with soTimeout := timeout }

/-- `Socket.receive ()`; `none` if nothing arrives during the wait. `answers` says what arrives
during each wait. -/
def receive (answers : Nat → Option CStr) (socket : Socket) : Option CStr × Socket :=
  (answers socket.waits.length, { socket with waits := socket.waits ++ [socket.soTimeout] })

-- ---------------------------------------------------------------------------
-- getMessage ()
-- ---------------------------------------------------------------------------

/-- How `getMessage ()` ends. -/
inductive Ended where
  | reply (message : CStr)
  | interrupted
  | illegalArgument
deriving DecidableEq, Repr

/-- The `try` with its `catch`; `none` if the method does not end there. -/
def tryReceive (J : JavaLang) (answers : Nat → Option CStr) (socket : Socket) :
    Option Ended × Socket :=
  match receive answers socket with
  | (some packet, socket) => (some (.reply (trim (J.decode (packetData packet)))), socket)
  | (none, socket) =>
    match setSoTimeout (toInt (socket.soTimeout * 2)) socket with
    | some socket => (none, socket)
    | none => (some .illegalArgument, socket)

/-- The `finally`: what it throws takes the place of anything else. -/
def restore (timeout : Int) (ended : Option Ended) (socket : Socket) : Option Ended × Socket :=
  match setSoTimeout timeout socket with
  | some socket => (ended, socket)
  | none => (some .illegalArgument, socket)

/-- The loop. -/
def tryAgain (J : JavaLang) (answers : Nat → Option CStr) (timeout : Int) :
    Nat → Socket → Ended × Socket
  | 0, socket => (.interrupted, socket)
  | retries + 1, socket =>
    let (ended, socket) := tryReceive J answers socket
    match restore timeout ended socket with
    | (some ended, socket) => (ended, socket)
    | (none, socket) => tryAgain J answers timeout retries socket

/-- `getMessage ()` -/
def getMessage (J : JavaLang) (answers : Nat → Option CStr) (retries : Int) (socket : Socket) :
    Ended × Socket :=
  tryAgain J answers socket.soTimeout retries.toNat socket

/-- The documented timeouts of the first `k` waits. -/
def backOff (timeout : Int) (k : Nat) : List Int := (List.range k).map fun i => 2 ^ i * timeout

/-- What the comment in front of `getMessage ()` says of it. -/
structure BacksOff (J : JavaLang) (answers : Nat → Option CStr) (timeout : Int) (retries : Nat)
    (result : Ended × Socket) : Prop where
  silent : (∀ k < retries, answers k = none) →
    result.1 = .interrupted ∧ result.2.waits = backOff timeout retries
  answered : ∀ k < retries, ∀ packet, answers k = some packet → (∀ i < k, answers i = none) →
    result.1 = .reply (trim (J.decode (packetData packet))) ∧
      result.2.waits = backOff timeout (k + 1)
  restored : result.2.soTimeout = timeout

variable {J : JavaLang} {answers : Nat → Option CStr} {timeout : Int} {socket : Socket}

-- ---------------------------------------------------------------------------
-- One wait
-- ---------------------------------------------------------------------------

/-- The socket after one more wait with this timeout. -/
def waited (timeout : Int) (socket : Socket) : Socket := ⟨timeout, socket.waits ++ [timeout]⟩

/-- **One wait.** Whatever happens, the timeout is the initial one afterwards. -/
theorem restore_tryReceive (hTimeout : 0 ≤ timeout) (hSocket : socket.soTimeout = timeout) :
    restore timeout (tryReceive J answers socket).1 (tryReceive J answers socket).2 =
      (match answers socket.waits.length with
        | some packet => some (.reply (trim (J.decode (packetData packet))))
        | none => if toInt (timeout * 2) < 0 then some .illegalArgument else none,
      waited timeout socket) := by
  have hNot : ¬ timeout < 0 := by omega
  unfold tryReceive receive
  cases answers socket.waits.length with
  | some packet => simp [restore, setSoTimeout, hNot, waited, hSocket]
  | none =>
    by_cases hOverflow : toInt (timeout * 2) < 0 <;>
      simp [restore, setSoTimeout, hNot, hOverflow, waited, hSocket]

-- ---------------------------------------------------------------------------
-- The loop
-- ---------------------------------------------------------------------------

theorem tryAgain_succ (hTimeout : 0 ≤ timeout) (hSocket : socket.soTimeout = timeout)
    (retries : Nat) :
    tryAgain J answers timeout (retries + 1) socket =
      match answers socket.waits.length with
      | some packet => (.reply (trim (J.decode (packetData packet))), waited timeout socket)
      | none =>
        if toInt (timeout * 2) < 0 then (.illegalArgument, waited timeout socket)
        else tryAgain J answers timeout retries (waited timeout socket) := by
  rw [tryAgain]
  dsimp only
  rw [restore_tryReceive hTimeout hSocket]
  cases answers socket.waits.length with
  | some packet => rfl
  | none => by_cases hOverflow : toInt (timeout * 2) < 0 <;> simp [hOverflow]

/-- **Every wait is as long as the first**, and the initial timeout is in force at the end. -/
theorem tryAgain_waits (hTimeout : 0 ≤ timeout) (hSocket : socket.soTimeout = timeout)
    (retries : Nat) : ∃ m, (tryAgain J answers timeout retries socket).2 =
      ⟨timeout, socket.waits ++ List.replicate m timeout⟩ := by
  induction retries generalizing socket with
  | zero =>
    obtain ⟨soTimeout, waits⟩ := socket
    exact ⟨0, by simp only [tryAgain, List.replicate_zero, List.append_nil, ← hSocket]⟩
  | succ retries ih =>
    rw [tryAgain_succ hTimeout hSocket]
    have hOne : waited timeout socket = ⟨timeout, socket.waits ++ List.replicate 1 timeout⟩ := rfl
    split
    · exact ⟨1, hOne⟩
    · split
      · exact ⟨1, hOne⟩
      · have hWaited : (waited timeout socket).soTimeout = timeout := rfl
        obtain ⟨m, hRest⟩ := ih hWaited
        refine ⟨m + 1, hRest.trans ?_⟩
        rw [waited, List.append_assoc, List.replicate_succ, List.singleton_append]

/-- The reply is the first packet, where the doubled timeouts are in range. -/
theorem tryAgain_reply (hTimeout : 0 ≤ timeout) (hSocket : socket.soTimeout = timeout)
    (hDouble : ¬ toInt (timeout * 2) < 0) (retries : Nat) :
    (tryAgain J answers timeout retries socket).1 =
      match JavaClient.getMessage J
        ((List.range' socket.waits.length retries).findSome? answers) with
      | some message => .reply message
      | none => .interrupted := by
  induction retries generalizing socket with
  | zero => rfl
  | succ retries ih =>
    rw [tryAgain_succ hTimeout hSocket, List.range'_succ, List.findSome?_cons]
    cases answers socket.waits.length with
    | some packet => rfl
    | none =>
      dsimp only
      have hWaited : (waited timeout socket).soTimeout = timeout := rfl
      rw [if_neg hDouble, ih hWaited]
      simp only [waited, List.length_append, List.length_singleton]

/-- **Waiting for a reply**, as the rest of the client sees it. -/
theorem getMessage_reply (hTimeout : 0 ≤ timeout) (hDouble : timeout * 2 < 2147483648)
    (retries : Nat) : (getMessage J answers retries ⟨timeout, []⟩).1 =
      match JavaClient.getMessage J ((List.range retries).findSome? answers) with
      | some message => .reply message
      | none => .interrupted := by
  have hNot : ¬ toInt (timeout * 2) < 0 := by
    unfold toInt
    rw [Int.bmod_def]
    omega
  rw [List.range_eq_range']
  exact tryAgain_reply hTimeout rfl hNot retries

-- ---------------------------------------------------------------------------
-- The documented timeouts
-- ---------------------------------------------------------------------------

theorem backOff_one (timeout : Int) : backOff timeout 1 = [timeout] := by
  simp [backOff]

/-- The second timeout is not the first. -/
theorem backOff_ne_replicate (hTimeout : 0 < timeout) {k : Nat} (hk : 2 ≤ k) (m : Nat) :
    backOff timeout k ≠ List.replicate m timeout := by
  intro hEq
  have hMem : 2 ^ 1 * timeout ∈ backOff timeout k :=
    List.mem_map_of_mem (f := fun i => 2 ^ i * timeout) (List.mem_range.mpr hk)
  rw [hEq] at hMem
  have hSame := List.eq_of_mem_replicate hMem
  omega

theorem doubled_neg_iff (hTimeout : 0 < timeout) (hInt : timeout ≤ 2147483647) :
    toInt (timeout * 2) < 0 ↔ 2147483648 ≤ timeout * 2 := by
  unfold toInt
  rw [Int.bmod_def]
  omega

/-- Either nothing arrives, or something arrives first. -/
theorem silent_or_answered (answers : Nat → Option CStr) (retries : Nat) :
    (∀ k < retries, answers k = none) ∨
      ∃ k < retries, ∃ packet, answers k = some packet ∧ ∀ i < k, answers i = none := by
  by_cases hSome : ∃ k, k < retries ∧ (answers k).isSome
  · obtain ⟨hLess, hPacket⟩ := Nat.find_spec hSome
    obtain ⟨packet, hPacket⟩ := Option.isSome_iff_exists.mp hPacket
    refine Or.inr ⟨_, hLess, packet, hPacket, fun i hi => ?_⟩
    have hNot := Nat.find_min hSome hi
    by_contra hAnswer
    exact hNot ⟨hi.trans hLess, Option.isSome_iff_ne_none.mpr hAnswer⟩
  · refine Or.inl fun k hk => ?_
    by_contra hAnswer
    exact hSome ⟨k, hk, Option.isSome_iff_ne_none.mpr hAnswer⟩

/-- **Exponential back-off.** The timeouts are as documented exactly if there is no second wait,
and the timeout behind a wait in vain can be doubled. -/
theorem back_off_iff (J : JavaLang) (answers : Nat → Option CStr) (timeout : Int) (retries : Nat)
    (hTimeout : 0 < timeout) (hInt : timeout ≤ 2147483647) :
    BacksOff J answers timeout retries (getMessage J answers retries ⟨timeout, []⟩) ↔
      retries = 0 ∨ answers 0 ≠ none ∨ (retries = 1 ∧ timeout * 2 < 2147483648) := by
  have hNonneg : 0 ≤ timeout := by omega
  have hInitial : (⟨timeout, []⟩ : Socket).soTimeout = timeout := rfl
  obtain ⟨m, hSocket⟩ := tryAgain_waits (J := J) hNonneg hInitial retries
  change (getMessage J answers retries ⟨timeout, []⟩).2 = _ at hSocket
  rw [List.nil_append] at hSocket
  have hRestored : (getMessage J answers retries ⟨timeout, []⟩).2.soTimeout = timeout := by
    rw [hSocket]
  obtain rfl | ⟨more, rfl⟩ : retries = 0 ∨ ∃ more, retries = more + 1 := by
    cases retries with
    | zero => exact Or.inl rfl
    | succ more => exact Or.inr ⟨more, rfl⟩
  · refine iff_of_true ⟨fun _ => ⟨rfl, rfl⟩, fun k hk => absurd hk (Nat.not_lt_zero k), rfl⟩ (Or.inl rfl)
  have hFirst : getMessage J answers (more + 1 : Nat) ⟨timeout, []⟩ =
      match answers 0 with
      | some packet => (.reply (trim (J.decode (packetData packet))), waited timeout ⟨timeout, []⟩)
      | none =>
        if toInt (timeout * 2) < 0 then (.illegalArgument, waited timeout ⟨timeout, []⟩)
        else tryAgain J answers timeout more (waited timeout ⟨timeout, []⟩) :=
    tryAgain_succ hNonneg hInitial more
  cases hAnswer : answers 0 with
  | some packet =>
    rw [hAnswer] at hFirst
    refine iff_of_true ⟨fun hSilent => ?_, fun k _ other hOther hBefore => ?_, hRestored⟩
      (Or.inr (Or.inl (by simp)))
    · exact absurd (hSilent 0 (Nat.succ_pos more)) (by simp [hAnswer])
    · obtain rfl | hk := Nat.eq_zero_or_pos k
      · obtain rfl := Option.some.inj (hAnswer.symm.trans hOther)
        rw [hFirst, backOff_one]
        exact ⟨rfl, rfl⟩
      · exact absurd (hBefore 0 hk) (by simp [hAnswer])
  | none =>
    rw [hAnswer] at hFirst
    dsimp only at hFirst
    by_cases hOverflow : toInt (timeout * 2) < 0
    · -- doubling the timeout throws, whatever is still to come
      rw [if_pos hOverflow] at hFirst
      have hTooLong := (doubled_neg_iff hTimeout hInt).mp hOverflow
      refine iff_of_false (fun h => ?_) (by simp; omega)
      rcases silent_or_answered answers (more + 1) with hSilent | ⟨k, hk, other, hOther, hBefore⟩
      · have hEnded := (h.silent hSilent).1
        rw [hFirst] at hEnded
        exact absurd hEnded (by simp)
      · have hEnded := (h.answered k hk other hOther hBefore).1
        rw [hFirst] at hEnded
        exact absurd hEnded (by simp)
    · rw [if_neg hOverflow] at hFirst
      have hInRange : timeout * 2 < 2147483648 := by
        have hNot := mt (doubled_neg_iff hTimeout hInt).mpr hOverflow
        omega
      by_cases hMore : more = 0
      · subst hMore
        refine iff_of_true ⟨fun _ => ?_, fun k hk other hOther _ => ?_, hRestored⟩
          (Or.inr (Or.inr ⟨rfl, hInRange⟩))
        · rw [hFirst, backOff_one]
          exact ⟨rfl, rfl⟩
        · obtain rfl : k = 0 := by omega
          exact absurd hOther (by simp [hAnswer])
      · -- the second wait is as long as the first
        refine iff_of_false (fun h => ?_) (by simp [hMore])
        have hAnother : ∃ k, 2 ≤ k ∧
            (getMessage J answers (more + 1 : Nat) ⟨timeout, []⟩).2.waits = backOff timeout k := by
          rcases silent_or_answered answers (more + 1) with hSilent | ⟨k, hk, other, hOther, hBefore⟩
          · exact ⟨more + 1, by omega, (h.silent hSilent).2⟩
          · refine ⟨k + 1, ?_, (h.answered k hk other hOther hBefore).2⟩
            by_contra hSmall
            obtain rfl : k = 0 := by omega
            exact absurd hOther (by simp [hAnswer])
        obtain ⟨k, hk, hEq⟩ := hAnother
        rw [hSocket] at hEq
        exact backOff_ne_replicate hTimeout hk m hEq.symm

/-- The server's answer arrives during the first of three waits. -/
theorem back_off_answered :
    BacksOff asciiJava (fun _ => some "SERVER".toList) 1000 3
        (getMessage asciiJava (fun _ => some "SERVER".toList) (3 : Nat) ⟨1000, []⟩) ↔
      3 = 0 ∨ (some "SERVER".toList : Option CStr) ≠ none ∨ (3 = 1 ∧ (1000 : Int) * 2 < 2147483648) :=
  back_off_iff asciiJava (fun _ => some "SERVER".toList) 1000 3 (by decide) (by decide)

/-- The three default waits for an answer that never arrives last one second each. -/
theorem back_off_flat :
    getMessage asciiJava (fun _ => none) 3 ⟨1000, []⟩ = (.interrupted, ⟨1000, [1000, 1000, 1000]⟩) ∧
    backOff 1000 3 = [1000, 2000, 4000] ∧
    ¬ BacksOff asciiJava (fun _ => none) 1000 3 (getMessage asciiJava (fun _ => none) 3 ⟨1000, []⟩) := by
  refine ⟨by decide, by decide, fun h => ?_⟩
  have hWaits := (h.silent fun _ _ => rfl).2
  exact absurd hWaits (by decide)

end LinkControl.JavaClient.ServerCommunicator
