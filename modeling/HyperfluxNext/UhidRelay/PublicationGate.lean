import HyperfluxNext.UhidRelay.Endpoint

namespace HyperfluxNext

namespace UhidRelay

/-- Instants and delays are in nanoseconds. -/
def routeIdentityStabilityInterval : Nat := 250 * 1000000

def routeIdentityFastRetry : Nat := 100 * 1000000

def maxRouteIdentityAttempts : Nat := 65535

def retainedDepartureProbeCap : Nat := 2 * 1000000000

def longestReturnQuiescence (quiescenceMs : List Nat) : Nat := quiescenceMs.foldl max 0 * 1000000

inductive PublicationIdentityFailure where
  | bridge (failure : BridgeExchangeFailure)
  | status (code : UInt8)
  | transactionMismatch | headerMismatch | dataSizeMismatch | classMismatch | commandMismatch
  | crcMismatch | reservedMismatch | emptySerial | invalidSerial | identityMismatch
  | directStateUnavailable | uhidOpen | uhidRead | uhidWrite | uhidProtocol | uhidStartTimeout
  | kernelBinding
deriving DecidableEq

inductive PublicationFailureDisposition where
  | retryable | blocked
deriving DecidableEq

def PublicationIdentityFailure.disposition : PublicationIdentityFailure → PublicationFailureDisposition
  | .bridge failure =>
    if failure ∈ [.missingRouteAuthority, .requestEncoding, .timeoutEncoding, .responseEncoding] then .blocked
    else .retryable
  | .status code => if code ∈ [0x01, 0x03, razerStatusTimeout] then .retryable else .blocked
  | .identityMismatch | .directStateUnavailable | .kernelBinding => .retryable
  | _ => .blocked

/-- What the gate alone tells of a publication. -/
inductive RelayPublicationState where
  | pending | backingOff | blocked
deriving DecidableEq

def retryDelay (attempt : Nat) : Nat :=
  if attempt ≤ 5 then routeIdentityFastRetry
  else if attempt = 6 then 1 * 1000000000
  else if attempt = 7 then 2 * 1000000000
  else if attempt = 8 then 4 * 1000000000
  else if attempt = 9 then 8 * 1000000000
  else if attempt = 10 then 16 * 1000000000
  else 30 * 1000000000

/-- Holds a route privately until two serial reads agree on one child identity. -/
structure RoutePublicationGate (F : Type) where
  passOne : Option F
  attempts : Nat
  failure : Option PublicationIdentityFailure
  blocked : Bool
  nextProbe : Nat
  nextDelay : Nat
  fastUntil : Option Nat

structure PendingPublication (B F : Type) where
  bridge : Option B
  gate : RoutePublicationGate F
  readyFingerprint : Option F
  directSuppressed : Bool
  terminalFailure : Option PublicationIdentityFailure

variable {B F : Type}

namespace RoutePublicationGate

def new (now : Nat) : RoutePublicationGate F := ⟨none, 0, none, false, now, 0, none⟩

def due (gate : RoutePublicationGate F) (now : Nat) : Bool := !gate.blocked ∧ now ≥ gate.nextProbe

def fail (gate : RoutePublicationGate F) (failure : PublicationIdentityFailure) (now : Nat) :
    RoutePublicationGate F :=
  let attempts := min (gate.attempts + 1) maxRouteIdentityAttempts
  let delay := if gate.fastUntil.any (now < ·) then min (retryDelay attempts) retainedDepartureProbeCap
    else retryDelay attempts
  { gate with
    passOne := none
    attempts := attempts
    failure := some failure
    blocked := failure.disposition = .blocked
    nextDelay := delay
    nextProbe := now + delay }

/-- Takes a probe's result: a first read, a second that agrees, or a failure. -/
def observe [DecidableEq F] (gate : RoutePublicationGate F) (result : Except PublicationIdentityFailure F) (now : Nat) :
    Option F × RoutePublicationGate F :=
  match result with
  | .error failure => (none, gate.fail failure now)
  | .ok identity =>
    match gate.passOne with
    | some passOne =>
      if passOne = identity then
        (some identity, { gate with failure := none, passOne := none, nextProbe := now, nextDelay := 0 })
      else
        (none, { gate with failure := none, passOne := none }.fail .identityMismatch now)
    | none =>
      (none, { gate with
        failure := none
        passOne := some identity
        nextProbe := now + routeIdentityStabilityInterval
        nextDelay := routeIdentityStabilityInterval })

def state (gate : RoutePublicationGate F) : RelayPublicationState :=
  if gate.blocked then .blocked else if gate.failure.isSome then .backingOff else .pending

def markCompleted (gate : RoutePublicationGate F) (now : Nat) : RoutePublicationGate F :=
  { gate with
    passOne := none, attempts := 0, failure := none, blocked := false, nextDelay := 0, nextProbe := now
    fastUntil := none }

end RoutePublicationGate

namespace PendingPublication

def new (bridge : B) (now : Nat) : PendingPublication B F := ⟨some bridge, .new now, none, false, none⟩

def retrying (bridge : B) (failure : PublicationIdentityFailure) (now : Nat) : PendingPublication B F :=
  { new bridge now with gate := (RoutePublicationGate.new now).fail failure now }

/-- A departed retained route is probed again soon for as long as the child may be quiet. -/
def retryingAfterDeparture (quiescenceMs : List Nat) (bridge : B) (now : Nat) : PendingPublication B F :=
  { new bridge now with
    gate := { RoutePublicationGate.new now with
      fastUntil := some (now + longestReturnQuiescence quiescenceMs) }.fail (.status razerStatusTimeout) now }

/-- Whether a probe would query the bridge. -/
def probes (pending : PendingPublication B F) (now : Nat) : Bool :=
  pending.bridge.isSome ∧ pending.readyFingerprint = none ∧ !pending.directSuppressed ∧
    pending.terminalFailure = none ∧ pending.gate.due now

def probe [DecidableEq F] (pending : PendingPublication B F) (query : B → Except PublicationIdentityFailure F × B)
    (now : Nat) : PendingPublication B F :=
  match pending.bridge with
  | none => pending
  | some bridge =>
    if pending.probes now then
      let (result, bridge) := query bridge
      let (fingerprint, gate) := pending.gate.observe result now
      { pending with
        bridge := some bridge, gate := gate, readyFingerprint := fingerprint.or pending.readyFingerprint }
    else pending

/-- Publishes a ready route, unless the child is there directly. A ready publication has its bridge. -/
def complete (pending : PendingPublication B F) (suppresses : F → Bool)
    (create : B → Except PublicationIdentityFailure Unit) (now : Nat) : PendingPublication B F :=
  match pending.readyFingerprint, pending.bridge with
  | none, _ => pending
  | some _, none => { pending with readyFingerprint := none }
  | some fingerprint, some bridge =>
    let taken := { pending with readyFingerprint := none, bridge := none }
    if suppresses fingerprint then
      { taken with directSuppressed := true, gate := pending.gate.markCompleted now }
    else
      match create bridge with
      | .ok () => { taken with gate := pending.gate.markCompleted now }
      | .error failure => { taken with terminalFailure := some failure }

def freshEvidence (pending : PendingPublication B F) (now : Nat) : PendingPublication B F :=
  if pending.bridge.isSome ∧ pending.terminalFailure = none ∧ !pending.directSuppressed ∧
      pending.readyFingerprint = none ∧ pending.gate.state = .backingOff then
    { pending with gate := { pending.gate with nextProbe := now, nextDelay := 0 } }
  else pending

def directScanFailed (pending : PendingPublication B F) (now : Nat) : PendingPublication B F :=
  if pending.readyFingerprint.isSome then
    { pending with readyFingerprint := none, gate := pending.gate.fail .directStateUnavailable now }
  else pending

def block (pending : PendingPublication B F) (failure : PublicationIdentityFailure) : PendingPublication B F :=
  { pending with
    bridge := none, readyFingerprint := none, terminalFailure := some failure, directSuppressed := false }

end PendingPublication

/-- What happens to a publication. The bridge answers a query, and a completion either finds the child
there directly or creates its endpoint. -/
inductive PublicationEvent (B F : Type) where
  | probe (query : B → Except PublicationIdentityFailure F × B)
  | freshEvidence
  | directScanFailed
  | complete (suppresses : F → Bool) (create : B → Except PublicationIdentityFailure Unit)
  | block (failure : PublicationIdentityFailure)
  | suppress

namespace PendingPublication

def step [DecidableEq F] (pending : PendingPublication B F) (now : Nat) : PublicationEvent B F → PendingPublication B F
  | .probe query => pending.probe query now
  | .freshEvidence => pending.freshEvidence now
  | .directScanFailed => pending.directScanFailed now
  | .complete suppresses create => pending.complete suppresses create now
  | .block failure => pending.block failure
  | .suppress => { pending with directSuppressed := true }

def recorded (pending : PendingPublication B F) (now : Nat) :
    PublicationEvent B F → Option (Except PublicationIdentityFailure F)
  | .probe query => if pending.probes now then pending.bridge.map fun bridge => (query bridge).1 else none
  | .directScanFailed =>
    if pending.readyFingerprint.isSome then some (.error .directStateUnavailable) else none
  | _ => none

def fails [DecidableEq F] (pending : PendingPublication B F) (now : Nat) (event : PublicationEvent B F) : Bool :=
  match pending.recorded now event with
  | some (.error _) => true
  | some (.ok identity) => pending.gate.passOne.any (· ≠ identity)
  | none => false

end PendingPublication

structure PublicationRun (B F : Type) where
  pending : PendingPublication B F
  records : List (Nat × Except PublicationIdentityFailure F)

namespace PublicationRun

def advance [DecidableEq F] (run : PublicationRun B F) (event : Nat × PublicationEvent B F) : PublicationRun B F :=
  ⟨run.pending.step event.1 event.2,
    run.records ++ (run.pending.recorded event.1 event.2).toList.map (event.1, ·)⟩

def after [DecidableEq F] (run : PublicationRun B F) (events : List (Nat × PublicationEvent B F)) : PublicationRun B F :=
  events.foldl advance run

inductive Started : PendingPublication B F → Prop
  | new (bridge : B) (now : Nat) : Started (.new bridge now)
  | retrying (bridge : B) (failure : PublicationIdentityFailure) (now : Nat) :
      Started (.retrying bridge failure now)
  | retryingAfterDeparture (quiescenceMs : List Nat) (bridge : B) (now : Nat) :
      Started (.retryingAfterDeparture quiescenceMs bridge now)

/-- A first read is the last record, and the next probe is due the stability interval after it. -/
structure Gated (run : PublicationRun B F) : Prop where
  passOne : ∀ identity, run.pending.gate.passOne = some identity →
    ∃ earlier first, run.records = earlier ++ [(first, .ok identity)] ∧
      run.pending.gate.nextProbe = first + routeIdentityStabilityInterval ∧
      run.pending.gate.failure = none ∧ run.pending.readyFingerprint = none
  blocked : run.pending.gate.blocked = true → run.pending.readyFingerprint = none
  attempts : run.pending.gate.attempts ≤ maxRouteIdentityAttempts

variable {run : PublicationRun B F} {now : Nat}

/-- Whether nothing may be probed any more. -/
def Stopped (pending : PendingPublication B F) : Prop :=
  pending.gate.blocked = true ∨ pending.directSuppressed = true ∨ pending.terminalFailure.isSome

/-- Whether nothing can fail any more. -/
def Finished (pending : PendingPublication B F) : Prop :=
  pending.readyFingerprint = none ∧
    (pending.bridge = none ∨ pending.directSuppressed = true ∨ pending.terminalFailure.isSome)

theorem probes_iff {pending : PendingPublication B F} : pending.probes now = true ↔
    pending.bridge.isSome = true ∧ pending.readyFingerprint = none ∧ pending.directSuppressed = false ∧
      pending.terminalFailure = none ∧ pending.gate.blocked = false ∧ pending.gate.nextProbe ≤ now := by
  simp [PendingPublication.probes, RoutePublicationGate.due]

theorem started_gated {start : PendingPublication B F} (h : Started start) : Gated ⟨start, []⟩ := by
  cases h with
  | new bridge now => exact ⟨nofun, fun _ => rfl, Nat.zero_le _⟩
  | retrying bridge failure now => exact ⟨nofun, fun _ => rfl, Nat.min_le_right _ _⟩
  | retryingAfterDeparture quiescenceMs bridge now => exact ⟨nofun, fun _ => rfl, Nat.min_le_right _ _⟩

theorem Gated.freshEvidence (h : Gated run) {identity : F} (hpass : run.pending.gate.passOne = some identity) :
    run.pending.freshEvidence now = run.pending := by
  obtain ⟨_, _, _, _, hfailure, _⟩ := h.passOne identity hpass
  refine if_neg fun hbacking => ?_
  have hstate := hbacking.2.2.2.2
  unfold RoutePublicationGate.state at hstate
  rw [hfailure] at hstate
  split at hstate <;> cases hstate

theorem retryDelay_mono {attempt later : Nat} (h : attempt ≤ later) : retryDelay attempt ≤ retryDelay later := by
  unfold retryDelay routeIdentityFastRetry
  split_ifs <;> omega

theorem fail_delay (gate : RoutePublicationGate F) (failure : PublicationIdentityFailure) (now : Nat) :
    (gate.fail failure now).nextDelay ≤ retryDelay (gate.fail failure now).attempts ∧
      (gate.fastUntil.any (now < ·) = false →
        (gate.fail failure now).nextDelay = retryDelay (gate.fail failure now).attempts) := by
  unfold RoutePublicationGate.fail
  dsimp only
  split
  next hfast => exact ⟨Nat.min_le_left _ _, fun hslow => absurd (hslow.symm.trans hfast) Bool.false_ne_true⟩
  · exact ⟨Nat.le_refl _, fun _ => rfl⟩

/-- What an event can do: what it records, whether the gate fails, and what the publication becomes. -/
inductive Moves (pending : PendingPublication B F) (now : Nat) :
    Option (Except PublicationIdentityFailure F) → Bool → PendingPublication B F → Prop
  | idle : Moves pending now none false pending
  | first {bridge : B} {identity : F} (h : pending.probes now = true) (hpass : pending.gate.passOne = none) :
      Moves pending now (some (.ok identity)) false { pending with
        bridge := some bridge
        gate := { pending.gate with
          failure := none
          passOne := some identity
          nextProbe := now + routeIdentityStabilityInterval
          nextDelay := routeIdentityStabilityInterval } }
  | agreed {bridge : B} {identity : F} (h : pending.probes now = true)
      (hpass : pending.gate.passOne = some identity) :
      Moves pending now (some (.ok identity)) false { pending with
        bridge := some bridge
        gate := { pending.gate with failure := none, passOne := none, nextProbe := now, nextDelay := 0 }
        readyFingerprint := some identity }
  | failed {bridge : Option B} {gate : RoutePublicationGate F} {failure : PublicationIdentityFailure}
      {result : Except PublicationIdentityFailure F} (hopen : ¬ Finished pending)
      (hlive : pending.gate.blocked = false ∨ pending.readyFingerprint ≠ none)
      (hattempts : gate.attempts = pending.gate.attempts) (hwindow : gate.fastUntil = pending.gate.fastUntil) :
      Moves pending now (some result) true { pending with
        bridge := bridge, gate := gate.fail failure now, readyFingerprint := none }
  | refreshed (h : pending.gate.failure ≠ none) :
      Moves pending now none false { pending with gate := { pending.gate with nextProbe := now, nextDelay := 0 } }
  | closed {pending' : PendingPublication B F} (h : Finished pending')
      (hgate : pending'.gate = pending.gate ∨
        pending.readyFingerprint ≠ none ∧ pending'.gate = pending.gate.markCompleted now)
      (hflags : pending.directSuppressed = true ∨ pending.terminalFailure.isSome = true →
        pending'.directSuppressed = true ∨ pending'.terminalFailure.isSome = true) :
      Moves pending now none false pending'
  | suppressed : Moves pending now none false { pending with directSuppressed := true }

theorem not_probes_of_stopped {pending : PendingPublication B F} (h : Stopped pending) :
    pending.probes now = false := by
  cases hprobes : pending.probes now with
  | false => rfl
  | true =>
    obtain ⟨_, _, hsuppressed, hterminal, hlive, _⟩ := probes_iff.mp hprobes
    simp [Stopped, hsuppressed, hterminal, hlive] at h

variable [DecidableEq F]

theorem step_moves (pending : PendingPublication B F) (now : Nat) (event : PublicationEvent B F) :
    Moves pending now (pending.recorded now event) (pending.fails now event) (pending.step now event) := by
  unfold PendingPublication.fails
  cases event with
  | probe query =>
    show Moves pending now (if pending.probes now then pending.bridge.map fun bridge => (query bridge).1 else none)
      (match if pending.probes now then pending.bridge.map fun bridge => (query bridge).1 else none with
        | some (.error _) => true
        | some (.ok identity) => pending.gate.passOne.any (· ≠ identity)
        | none => false) (pending.probe query now)
    unfold PendingPublication.probe
    cases hprobes : pending.probes now with
    | false =>
      cases pending.bridge with
      | none | some bridge => exact .idle
    | true =>
      obtain ⟨hbridge, hready, hsuppressed, hterminal, hlive, _⟩ := probes_iff.mp hprobes
      obtain ⟨bridge, hbridge⟩ := Option.isSome_iff_exists.mp hbridge
      have hopen : ¬ Finished pending := by
        simp [Finished, hbridge, hsuppressed, hterminal]
      simp only [hbridge, if_true, Option.map_some, hready, Option.or_none]
      cases (query bridge).1 with
      | error failure => exact .failed hopen (.inl hlive) rfl rfl
      | ok identity =>
        unfold RoutePublicationGate.observe
        cases hpass : pending.gate.passOne with
        | none =>
          have hfirst := @Moves.first B F pending now (query bridge).2 identity hprobes hpass
          rw [hready] at hfirst
          exact hfirst
        | some passOne =>
          by_cases hsame : passOne = identity
          · subst hsame
            simp only [if_true, Option.any_some, ne_eq, not_true_eq_false, decide_false]
            exact .agreed hprobes hpass
          simp only [hsame, if_false, Option.any_some, ne_eq, not_false_eq_true, decide_true]
          let gate : RoutePublicationGate F := { pending.gate with failure := none, passOne := none }
          have hattempts : gate.attempts = pending.gate.attempts := rfl
          exact .failed hopen (.inl hlive) hattempts rfl
  | freshEvidence =>
    show Moves pending now none false (pending.freshEvidence now)
    unfold PendingPublication.freshEvidence
    split
    next hbacking =>
      refine .refreshed fun hnone => ?_
      have hstate := hbacking.2.2.2.2
      unfold RoutePublicationGate.state at hstate
      rw [hnone] at hstate
      split at hstate <;> cases hstate
    · exact .idle
  | directScanFailed =>
    unfold PendingPublication.recorded PendingPublication.step PendingPublication.directScanFailed
    cases hready : pending.readyFingerprint with
    | none => simpa [hready] using Moves.idle
    | some fingerprint =>
      simp only [Option.isSome_some, if_true]
      refine .failed (fun hfinished => ?_) (.inr (by simp [hready])) rfl rfl
      rw [hfinished.1] at hready
      cases hready
  | complete suppresses create =>
    show Moves pending now none false (pending.complete suppresses create now)
    unfold PendingPublication.complete
    cases hready : pending.readyFingerprint with
    | none => exact .idle
    | some fingerprint =>
      have htaken : pending.readyFingerprint ≠ none := by simp [hready]
      cases hbridge : pending.bridge with
      | none => exact .closed ⟨rfl, .inl rfl⟩ (.inl rfl) id
      | some bridge =>
        dsimp only
        split
        · exact .closed ⟨rfl, .inl rfl⟩ (.inr ⟨htaken, rfl⟩) fun _ => .inl rfl
        split
        · exact .closed ⟨rfl, .inl rfl⟩ (.inr ⟨htaken, rfl⟩) id
        · exact .closed ⟨rfl, .inl rfl⟩ (.inl rfl) fun _ => .inr rfl
  | block failure => exact .closed ⟨rfl, .inl rfl⟩ (.inl rfl) fun _ => .inr rfl
  | suppress => exact .suppressed

theorem advance_moves (run : PublicationRun B F) (now : Nat) (event : PublicationEvent B F) :
    ∃ result after, Moves run.pending now result (run.pending.fails now event) after ∧
      run.advance (now, event) = ⟨after, run.records ++ result.toList.map (now, ·)⟩ :=
  ⟨_, _, step_moves run.pending now event, rfl⟩

theorem Gated.advance (h : Gated run) (event : PublicationEvent B F) : Gated (run.advance (now, event)) := by
  obtain ⟨result, after, hmoves, hadvance⟩ := advance_moves run now event
  generalize run.pending.fails now event = failed at hmoves
  rw [hadvance]
  cases hmoves with
  | idle =>
    rw [Option.toList_none, List.map_nil, List.append_nil]
    exact h
  | first hprobes _ =>
    have hready := (probes_iff.mp hprobes).2.1
    refine ⟨fun found hfound => ?_, fun _ => hready, h.attempts⟩
    cases hfound
    exact ⟨run.records, now, rfl, rfl, rfl, hready⟩
  | agreed hprobes _ =>
    refine ⟨nofun, fun hblocked => ?_, h.attempts⟩
    exact absurd ((probes_iff.mp hprobes).2.2.2.2.1.symm.trans hblocked) Bool.false_ne_true
  | failed => exact ⟨nofun, fun _ => rfl, Nat.min_le_right _ _⟩
  | refreshed hfailure =>
    refine ⟨fun identity hpass => ?_, h.blocked, h.attempts⟩
    obtain ⟨_, _, _, _, hnone, _⟩ := h.passOne identity hpass
    exact absurd hnone hfailure
  | closed hfinished hgate _ =>
    rw [Option.toList_none, List.map_nil, List.append_nil]
    obtain hgate | ⟨_, hgate⟩ := hgate
    · refine ⟨fun identity hpass => ?_, fun _ => hfinished.1, by rw [hgate]; exact h.attempts⟩
      rw [hgate] at hpass ⊢
      obtain ⟨earlier, first, hrecords, hdue, hfailure, _⟩ := h.passOne identity hpass
      exact ⟨earlier, first, hrecords, hdue, hfailure, hfinished.1⟩
    refine ⟨fun identity hpass => ?_, fun _ => hfinished.1, by rw [hgate]; exact Nat.zero_le _⟩
    rw [hgate] at hpass
    cases hpass
  | suppressed =>
    rw [Option.toList_none, List.map_nil, List.append_nil]
    exact ⟨h.passOne, h.blocked, h.attempts⟩

theorem Gated.after (h : Gated run) (events : List (Nat × PublicationEvent B F)) : Gated (run.after events) := by
  induction events generalizing run with
  | nil => exact h
  | cons event events ih => exact ih (h.advance event.2)

/-- A fingerprint becomes ready by a second read that agrees with the first, long enough after it. -/
theorem Gated.ready (h : Gated run) (hnone : run.pending.readyFingerprint = none)
    {event : PublicationEvent B F} {identity : F}
    (hready : (run.advance (now, event)).pending.readyFingerprint = some identity) :
    ∃ earlier first, (run.advance (now, event)).records =
        earlier ++ [(first, .ok identity), (now, .ok identity)] ∧
      first + routeIdentityStabilityInterval ≤ now := by
  obtain ⟨result, after, hmoves, hadvance⟩ := advance_moves run now event
  generalize run.pending.fails now event = failed at hmoves
  rw [hadvance] at hready ⊢
  cases hmoves with
  | idle | first => exact absurd (hready.symm.trans hnone) nofun
  | agreed hprobes hpass =>
    cases hready
    obtain ⟨earlier, first, hrecords, hdue, _⟩ := h.passOne identity hpass
    have hnow := (probes_iff.mp hprobes).2.2.2.2.2
    refine ⟨earlier, first, ?_, by omega⟩
    rw [hrecords]
    simp
  | failed => cases hready
  | refreshed => exact absurd (hready.symm.trans hnone) nofun
  | closed hfinished => exact absurd (hready.symm.trans hfinished.1) nofun
  | suppressed => exact absurd (hready.symm.trans hnone) nofun

theorem Gated.stopped (h : Gated run) (hstopped : Stopped run.pending) (event : PublicationEvent B F) :
    Stopped (run.advance (now, event)).pending := by
  have hidle : run.pending.probes now = false := not_probes_of_stopped hstopped
  obtain ⟨result, after, hmoves, hadvance⟩ := advance_moves run now event
  generalize run.pending.fails now event = failed at hmoves
  rw [hadvance]
  cases hmoves with
  | idle => exact hstopped
  | first hprobes | agreed hprobes => exact absurd (hidle.symm.trans hprobes) Bool.false_ne_true
  | failed _ hlive =>
    refine .inr (hstopped.resolve_left fun hblocked => ?_)
    obtain hopen | hready := hlive
    · exact Bool.false_ne_true (hopen.symm.trans hblocked)
    · exact hready (h.blocked hblocked)
  | refreshed => exact hstopped
  | closed _ hgate hflags =>
    obtain hblocked | hstopped := hstopped
    · obtain hgate | ⟨hready, _⟩ := hgate
      · exact .inl ((congrArg RoutePublicationGate.blocked hgate).trans hblocked)
      · exact absurd (h.blocked hblocked) hready
    · exact .inr (hflags hstopped)
  | suppressed => exact .inr (.inl rfl)

theorem Gated.stopped_after (h : Gated run) (hstopped : Stopped run.pending)
    (events : List (Nat × PublicationEvent B F)) (now : Nat) : (run.after events).pending.probes now = false := by
  induction events generalizing run with
  | nil => exact not_probes_of_stopped hstopped
  | cons event events ih => exact ih (h.advance event.2) (h.stopped hstopped event.2)

/-- Failures only add up, until nothing can fail any more. -/
theorem Gated.attempts_kept (h : Gated run) {attempts : Nat}
    (hattempts : attempts ≤ run.pending.gate.attempts ∨ Finished run.pending) (event : PublicationEvent B F) :
    attempts ≤ (run.advance (now, event)).pending.gate.attempts ∨ Finished (run.advance (now, event)).pending := by
  have hmax := h.attempts
  obtain ⟨result, after, hmoves, hadvance⟩ := advance_moves run now event
  generalize run.pending.fails now event = failed at hmoves
  rw [hadvance]
  have hprobed : run.pending.probes now = true → ¬ Finished run.pending := by
    intro hprobes
    obtain ⟨hbridge, _, hsuppressed, hterminal, _⟩ := probes_iff.mp hprobes
    obtain ⟨bridge, hbridge⟩ := Option.isSome_iff_exists.mp hbridge
    simp [Finished, hbridge, hsuppressed, hterminal]
  cases hmoves with
  | idle => exact hattempts
  | first hprobes | agreed hprobes => exact .inl (hattempts.resolve_right (hprobed hprobes))
  | failed hopen _ hcount =>
    have hattempts := hattempts.resolve_right hopen
    refine .inl (Nat.le_min.mpr ⟨?_, ?_⟩) <;> omega
  | refreshed => exact hattempts
  | closed hfinished => exact .inr hfinished
  | suppressed => exact hattempts.imp_right fun hfinished => ⟨hfinished.1, .inr (.inl rfl)⟩

theorem fails_gate {event : PublicationEvent B F} (hfails : run.pending.fails now event = true) :
    ¬ Finished run.pending ∧ ∃ gate : RoutePublicationGate F, ∃ failure,
      gate.attempts = run.pending.gate.attempts ∧ gate.fastUntil = run.pending.gate.fastUntil ∧
      (run.advance (now, event)).pending.gate = gate.fail failure now := by
  obtain ⟨result, after, hmoves, hadvance⟩ := advance_moves run now event
  rw [hfails] at hmoves
  rw [hadvance]
  cases hmoves with
  | failed hopen _ hattempts hwindow => exact ⟨hopen, _, _, hattempts, hwindow, rfl⟩

/-- Of two failures the later has the longer delay, unless it is in the fast window. -/
theorem Gated.delays (h : Gated run) {event later : PublicationEvent B F} {first second : Nat}
    (hfirst : run.pending.fails first event = true) (between : List (Nat × PublicationEvent B F))
    (hsecond : ((run.advance (first, event)).after between).pending.fails second later = true)
    (hslow : ((run.advance (first, event)).after between).pending.gate.fastUntil.any (second < ·) = false) :
    (run.advance (first, event)).pending.gate.nextDelay ≤
      (((run.advance (first, event)).after between).advance (second, later)).pending.gate.nextDelay := by
  have hnext : Gated (run.advance (first, event)) := h.advance event
  obtain ⟨_, gate, failure, _, _, hgate⟩ := fails_gate hfirst
  have hdelay := (fail_delay gate failure first).1
  rw [← hgate] at hdelay
  have hkept : ∀ (events : List (Nat × PublicationEvent B F)) (run' : PublicationRun B F), Gated run' →
      ((run.advance (first, event)).pending.gate.attempts ≤ run'.pending.gate.attempts ∨ Finished run'.pending) →
      ((run.advance (first, event)).pending.gate.attempts ≤ (run'.after events).pending.gate.attempts ∨
        Finished (run'.after events).pending) ∧ Gated (run'.after events) := by
    intro events
    induction events with
    | nil => exact fun run' hrun' hattempts => ⟨hattempts, hrun'⟩
    | cons next events ih =>
      exact fun run' hrun' hattempts => ih _ (hrun'.advance next.2) (hrun'.attempts_kept hattempts next.2)
  obtain ⟨hattempts, hlater⟩ := hkept between _ hnext (.inl (Nat.le_refl _))
  obtain ⟨hopen, gate', failure', hcount, hwindow, hgate'⟩ := fails_gate hsecond
  rw [← hwindow] at hslow
  have hmax := hnext.attempts
  have hattempts := hattempts.resolve_right hopen
  rw [hgate', (fail_delay gate' failure' second).2 hslow]
  refine Nat.le_trans hdelay (retryDelay_mono (Nat.le_min.mpr ⟨?_, hmax⟩))
  omega

/-- A fingerprint becomes ready by two agreeing reads in a row, the stability interval apart, that fresh evidence
does not shorten; a stopped publication never probes again, and retry delays do not decrease. -/
theorem publication_gate {start : PendingPublication B F} (hstart : Started start)
    (events : List (Nat × PublicationEvent B F)) :
    let run := PublicationRun.after ⟨start, []⟩ events
    (∀ now event identity, run.pending.readyFingerprint = none →
      (run.advance (now, event)).pending.readyFingerprint = some identity →
      ∃ earlier first, (run.advance (now, event)).records =
          earlier ++ [(first, .ok identity), (now, .ok identity)] ∧
        first + routeIdentityStabilityInterval ≤ now) ∧
      (∀ now identity, run.pending.gate.passOne = some identity → run.pending.freshEvidence now = run.pending) ∧
      (Stopped run.pending → ∀ later now, (run.after later).pending.probes now = false) ∧
      ∀ first event between second later, run.pending.fails first event = true →
        ((run.advance (first, event)).after between).pending.fails second later = true →
        ((run.advance (first, event)).after between).pending.gate.fastUntil.any (second < ·) = false →
        (run.advance (first, event)).pending.gate.nextDelay ≤
          (((run.advance (first, event)).after between).advance (second, later)).pending.gate.nextDelay := by
  have h := (started_gated hstart).after events
  refine ⟨fun now event identity hnone hready => h.ready hnone hready,
    fun now identity hpass => h.freshEvidence hpass, fun hstopped => h.stopped_after hstopped,
    fun first event between second later hfirst hsecond hslow => h.delays hfirst between hsecond hslow⟩

def readOnce : PublicationRun Unit String :=
  PublicationRun.after ⟨.new () 0, []⟩ [(0, .probe fun bridge => (.ok "serial", bridge))]

/-- The second read agrees, the stability interval after the first. -/
def readAgain : PublicationRun Unit String :=
  readOnce.advance (250000000, .probe fun bridge => (.ok "serial", bridge))

theorem publication_gate_readOnce : readOnce.pending.freshEvidence 7 = readOnce.pending ∧
    readOnce.pending.readyFingerprint = none ∧ readAgain.pending.readyFingerprint = some "serial" ∧
    ∃ earlier first, readAgain.records = earlier ++ [(first, .ok "serial"), (250000000, .ok "serial")] ∧
      first + routeIdentityStabilityInterval ≤ 250000000 := by
  have hgate := publication_gate (.new () 0) [(0, .probe fun bridge => (.ok "serial", bridge))]
  have hnone : readOnce.pending.readyFingerprint = none := by decide
  have hready : readAgain.pending.readyFingerprint = some "serial" := by decide
  exact ⟨hgate.2.1 7 "serial" rfl, hnone, hready, hgate.1 250000000 _ "serial" hnone hready⟩

theorem scan_failure_between_reads :
    (readOnce.after [(100000000, .directScanFailed),
      (250000000, .probe fun bridge => (.ok "serial", bridge))]).pending.readyFingerprint = some "serial" := by
  decide

end PublicationRun

end UhidRelay

end HyperfluxNext
