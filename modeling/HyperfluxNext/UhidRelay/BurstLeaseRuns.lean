import HyperfluxNext.Library.Tenure
import HyperfluxNext.UhidRelay.BurstLease

namespace HyperfluxNext

namespace UhidRelay

open List LeaseChannel HeldLease

inductive LeaseCall where
  | read (now : Nat)
  | acquired (resource : ResourceKey) (answer : Except BridgeExchangeFailure LeaseId)
  | renewed (leaseId : LeaseId) (answer : Except BridgeExchangeFailure Unit)
  | exchanged (leaseId : LeaseId) (report : FeatureReport) (result : BridgeExchangeResult)
  | released (leaseId : LeaseId)

open UhidRelay.LeaseCall

namespace LeaseCall

def event : LeaseCall → Tenure.Event LeaseId
  | .read _ => .other
  | .acquired _ (.ok leaseId) => .granted leaseId
  | .acquired _ (.error _) => .refused
  | .renewed leaseId _ => .used leaseId
  | .exchanged leaseId _ _ => .used leaseId
  | .released leaseId => .returned leaseId

def isAcquire : LeaseCall → Bool
  | .acquired _ _ => true
  | _ => false

def isExchange : LeaseCall → Bool
  | .exchanged _ _ _ => true
  | _ => false

def release? : LeaseCall → Option LeaseId
  | .released leaseId => some leaseId
  | _ => none

/-- A grant or a successful renewal. -/
def prolongs : LeaseCall → Bool
  | .acquired _ (.ok _) => true
  | .renewed _ (.ok _) => true
  | _ => false

end LeaseCall

def untilAcquire (calls : List LeaseCall) : List LeaseCall := calls.takeWhile fun call => ! call.isAcquire

def releases (calls : List LeaseCall) : List LeaseId := calls.filterMap release?

/-- The lease that was granted and not released by the calls, the oldest first. -/
def leaseHolder (calls : List LeaseCall) : Option LeaseId := Tenure.holder (calls.map event)

/-- The calls at the times they were made, on a clock that never goes back. -/
structure Stamped (calls : List LeaseCall) (stamped : List (Nat × LeaseCall)) : Prop where
  calls : stamped.map Prod.snd = calls
  forward : (stamped.map Prod.fst).Pairwise (· ≤ ·)
  readings : ∀ time now, (time, read now) ∈ stamped → time = now

/-- When the last grant or successful renewal was requested. -/
def lastProlonged (stamped : List (Nat × LeaseCall)) : Option Nat :=
  (stamped.filter fun entry => entry.2.prolongs).getLast?.map Prod.fst

/-- A channel that keeps the calls made on it, the oldest first. -/
structure RecordedChannel (C : Type) where
  channel : C
  calls : List LeaseCall

open RecordedChannel

namespace RecordedChannel

variable {C A : Type}

def ask (call : C → A × C) (entry : A → LeaseCall) (recorded : RecordedChannel C) : A × RecordedChannel C :=
  match call recorded.channel with
  | (answer, channel) => (answer, ⟨channel, recorded.calls ++ [entry answer]⟩)

end RecordedChannel

instance {C : Type} [LeaseChannel C] : LeaseChannel (RecordedChannel C) where
  now := ask now .read
  acquire resource := ask (acquire resource) (.acquired resource)
  renew leaseId := ask (renew leaseId) (.renewed leaseId)
  exchangeLeased leaseId report := ask (exchangeLeased leaseId report) (.exchanged leaseId report)
  release leaseId recorded := ⟨release leaseId recorded.channel, recorded.calls ++ [.released leaseId]⟩

inductive LeaseOp where
  | exchange (resource : ResourceKey) (report : FeatureReport)
  | releaseIfIdle (now : Nat)
  | release

abbrev Burst (C : Type) := BurstLease × RecordedChannel C

section Operations

variable {C : Type} [LeaseChannel C]

def LeaseOp.run (op : LeaseOp) (burst : Burst C) : Burst C :=
  match op with
  | .exchange resource report => (burst.1.exchange resource report burst.2).2
  | .releaseIfIdle now => burst.1.releaseIfIdle now burst.2
  | .release => burst.1.release burst.2

def runLease (ops : List LeaseOp) (channel : C) : Burst C :=
  ops.foldl (fun burst op => op.run burst) (⟨none⟩, ⟨channel, []⟩)

end Operations

/-- Every grant is released exactly once before the next acquire, or it is the lease still held. -/
def GrantsReturned (held : Option LeaseId) (calls : List LeaseCall) : Prop :=
  ∀ earlier resource leaseId later, calls = earlier ++ .acquired resource (.ok leaseId) :: later →
    releases (untilAcquire later) = [leaseId] ∨
      untilAcquire later = later ∧ releases later = [] ∧ held = some leaseId

/-- The lease was granted or renewed for the last time less than half its life before the given instant. -/
def Fresh (started : Nat) (calls : List LeaseCall) : Prop :=
  ∀ stamped, Stamped calls stamped →
    ∃ requested, lastProlonged stamped = some requested ∧ started < requested + leaseRenewAfter

inductive ExchangeCalls (resource : ResourceKey) (report : FeatureReport) (started : Nat)
    (earlier : List LeaseCall) : BridgeExchangeResult → List LeaseCall → Prop where
  | refused (prepared : List LeaseCall) (failure : BridgeExchangeFailure)
      (hprepared : ∀ call ∈ prepared, call.isExchange = false) :
      ExchangeCalls resource report started earlier (.notSent failure)
        (prepared ++ [.acquired resource (.error failure)])
  | sent (prepared settled : List LeaseCall) (leaseId : LeaseId) (result : BridgeExchangeResult)
      (hprepared : ∀ call ∈ prepared, call.isExchange = false)
      (hsettled : ∀ call ∈ settled, call.isExchange = false)
      (hholder : leaseHolder (earlier ++ prepared) = some leaseId)
      (hfresh : Fresh started (earlier ++ prepared)) :
      ExchangeCalls resource report started earlier result
        (prepared ++ .exchanged leaseId report result :: settled)

section Traces

theorem isRequest_event (call : LeaseCall) : call.event.isRequest = call.isAcquire := by
  cases call with
  | acquired resource answer => cases answer <;> rfl
  | read now | renewed leaseId answer | exchanged leaseId report result | released leaseId => rfl

theorem return?_event (call : LeaseCall) : call.event.return? = call.release? := by
  cases call with
  | acquired resource answer => cases answer <;> rfl
  | read now | renewed leaseId answer | exchanged leaseId report result | released leaseId => rfl

theorem untilRequest_event (calls : List LeaseCall) :
    Tenure.untilRequest (calls.map event) = (untilAcquire calls).map event := by
  unfold Tenure.untilRequest untilAcquire
  rw [takeWhile_map]
  simp only [Function.comp_def, isRequest_event]

theorem returns_event (calls : List LeaseCall) : Tenure.returns (calls.map event) = releases calls := by
  unfold Tenure.returns releases
  rw [filterMap_map]
  simp only [Function.comp_def, return?_event]

theorem untilAcquire_eq_of_length {calls : List LeaseCall}
    (h : (untilAcquire calls).map event = calls.map event) :
    untilAcquire calls = calls := by
  have hlength := congrArg List.length h
  rw [length_map, length_map] at hlength
  exact (List.takeWhile_prefix _).eq_of_length hlength

theorem grantsReturned_of_disciplined {calls : List LeaseCall}
    (h : Tenure.Disciplined (calls.map event)) : GrantsReturned (leaseHolder calls) calls := by
  intro earlier resource leaseId later hcalls
  have hevents : calls.map event = earlier.map event ++ .granted leaseId :: later.map event := by
    rw [hcalls, map_append, map_cons]
    rfl
  rw [hevents] at h
  have honce := h.returned_once
  rw [untilRequest_event, returns_event, returns_event, ← hevents] at honce
  rcases honce with hreturned | ⟨hall, hnone, hheld⟩
  · left
    exact hreturned
  right
  exact ⟨untilAcquire_eq_of_length hall, hnone, hheld⟩

end Traces

/-- The latest reading of the clock, and the reading before the last grant or successful renewal. -/
structure Readings where
  latest : Nat
  basis : Option Nat

def LeaseCall.reading? : LeaseCall → Option Nat
  | .read now => some now
  | _ => none

def Readings.next (readings : Readings) (call : LeaseCall) : Readings where
  latest := call.reading?.getD readings.latest
  basis := if call.prolongs then some readings.latest else readings.basis

def readingsOf (calls : List LeaseCall) : Readings := calls.foldl Readings.next ⟨0, none⟩

section Stamps

@[simp] theorem readingsOf_concat (calls : List LeaseCall) (call : LeaseCall) :
    readingsOf (calls ++ [call]) = (readingsOf calls).next call := by
  simp [readingsOf]

@[simp] theorem leaseHolder_concat (calls : List LeaseCall) (call : LeaseCall) :
    leaseHolder (calls ++ [call]) = call.event.next (leaseHolder calls) := by
  simp [leaseHolder]

theorem lastProlonged_concat (stamped : List (Nat × LeaseCall)) (time : Nat) (call : LeaseCall) :
    lastProlonged (stamped ++ [(time, call)]) =
      if call.prolongs then some time else lastProlonged stamped := by
  unfold lastProlonged
  cases hprolongs : call.prolongs <;> simp [hprolongs]

theorem eq_read_of_reading? {call : LeaseCall} {now : Nat} (h : call.reading? = some now) : call = .read now := by
  cases call with
  | read other => exact congrArg read (Option.some.inj h)
  | acquired resource answer => cases h
  | renewed leaseId answer | exchanged leaseId report result | released leaseId => cases h

theorem Stamped.init {calls : List LeaseCall} {call : LeaseCall} {stamped : List (Nat × LeaseCall)}
    {time : Nat} (h : Stamped (calls ++ [call]) (stamped ++ [(time, call)])) :
    Stamped calls stamped ∧ ∀ earlier ∈ stamped.map Prod.fst, earlier ≤ time := by
  have hcalls := h.calls
  have hforward := h.forward
  rw [map_append] at hcalls hforward
  rw [pairwise_append] at hforward
  refine ⟨⟨(append_inj' hcalls rfl).1, hforward.1, ?_⟩, ?_⟩
  · intro entry now hentry
    exact h.readings entry now (mem_append_left _ hentry)
  intro earlier hearlier
  exact hforward.2.2 earlier hearlier time (mem_singleton.mpr rfl)

/-- The clock is read before a request is sent, so no request is older than its reading. -/
theorem Stamped.readings_le {stamped : List (Nat × LeaseCall)} :
    ∀ {calls : List LeaseCall}, Stamped calls stamped →
      ((readingsOf calls).latest = 0 ∨ (readingsOf calls).latest ∈ stamped.map Prod.fst) ∧
        ∀ basis, (readingsOf calls).basis = some basis →
          ∃ requested, lastProlonged stamped = some requested ∧ basis ≤ requested := by
  induction stamped using List.reverseRecOn with
  | nil =>
    intro calls h
    have hnil : calls = [] := h.calls.symm
    subst hnil
    constructor
    · left
      rfl
    intro basis hbasis
    cases hbasis
  | append_singleton stamped entry ih =>
    obtain ⟨time, call⟩ := entry
    intro calls h
    have hcalls : calls = stamped.map Prod.snd ++ [call] := by
      rw [← h.calls, map_append]
      rfl
    subst hcalls
    obtain ⟨hinit, hbefore⟩ := h.init
    obtain ⟨hlatest, hbasis⟩ := ih hinit
    rw [readingsOf_concat, lastProlonged_concat]
    unfold Readings.next
    constructor
    · cases hreading : call.reading? with
      | some now =>
        have htime : time = now := by
          apply h.readings time now
          rw [← eq_read_of_reading? hreading]
          exact mem_append_right _ (mem_singleton.mpr rfl)
        right
        simp [htime]
      | none =>
        rcases hlatest with hzero | hmem
        · left
          exact hzero
        right
        rw [map_append]
        exact mem_append_left _ hmem
    intro basis
    cases hprolongs : call.prolongs with
    | true =>
      intro heq
      have heq : (readingsOf (stamped.map Prod.snd)).latest = basis := Option.some.inj heq
      refine ⟨time, rfl, ?_⟩
      rcases hlatest with hzero | hmem
      · omega
      have := hbefore _ hmem
      omega
    | false =>
      intro heq
      exact hbasis basis heq

theorem fresh_of_basis {calls : List LeaseCall} {started basis : Nat}
    (hbasis : (readingsOf calls).basis = some basis) (h : started - basis < leaseRenewAfter) :
    Fresh started calls := by
  intro stamped hstamped
  obtain ⟨requested, hrequested, hle⟩ := hstamped.readings_le.2 basis hbasis
  refine ⟨requested, hrequested, ?_⟩
  omega

end Stamps

/-- The lease held is the one the calls left granted, and its age is counted from the right reading. -/
structure BurstKept {C : Type} (burst : Burst C) : Prop where
  disciplined : Tenure.Disciplined (burst.2.calls.map event)
  holder : leaseHolder burst.2.calls = burst.1.held.map leaseId
  basis : ∀ held, burst.1.held = some held → (readingsOf burst.2.calls).basis = some held.grantedAt

/-- Calls were added, none of which sends a report. -/
def Silent {C : Type} (burst after : Burst C) : Prop :=
  ∃ more, after.2.calls = burst.2.calls ++ more ∧ ∀ call ∈ more, call.isExchange = false

def Renewed {C : Type} (now : Nat) (burst : Burst C) : Prop :=
  ∀ held, burst.1.held = some held → now - held.grantedAt < leaseRenewAfter

section Steps

variable {C : Type}

theorem Silent.refl (burst : Burst C) : Silent burst burst := ⟨[], (append_nil _).symm, fun _ h => by cases h⟩

variable {burst : Burst C} {lease : BurstLease} {recorded : RecordedChannel C} {channel : C}
  {call : LeaseCall}

theorem Silent.trans {middle after : Burst C} (h : Silent burst middle) (h' : Silent middle after) :
    Silent burst after := by
  obtain ⟨first, hfirst, hquiet⟩ := h
  obtain ⟨second, hsecond, hquiet'⟩ := h'
  refine ⟨first ++ second, ?_, ?_⟩
  · rw [hsecond, hfirst, append_assoc]
  intro call hcall
  rcases mem_append.mp hcall with hmem | hmem
  · exact hquiet call hmem
  · exact hquiet' call hmem

theorem silent_push {after : BurstLease} (h : call.isExchange = false) :
    Silent (lease, recorded) (after, ⟨channel, recorded.calls ++ [call]⟩) := by
  refine ⟨[call], rfl, ?_⟩
  intro other hother
  rw [mem_singleton.mp hother]
  exact h

theorem BurstKept.push {after : BurstLease} (h : BurstKept (lease, recorded))
    (hallowed : call.event.Allowed (lease.held.map leaseId))
    (hholder : call.event.next (lease.held.map leaseId) = after.held.map leaseId)
    (hbasis : ∀ held, after.held = some held →
      ((readingsOf recorded.calls).next call).basis = some held.grantedAt) :
    BurstKept (after, ⟨channel, recorded.calls ++ [call]⟩) := by
  have hheld : leaseHolder recorded.calls = lease.held.map leaseId := h.holder
  constructor
  · show Tenure.Disciplined ((recorded.calls ++ [call]).map event)
    rw [map_append]
    apply Tenure.disciplined_concat h.disciplined
    show call.event.Allowed (leaseHolder recorded.calls)
    rw [hheld]
    exact hallowed
  · show leaseHolder (recorded.calls ++ [call]) = _
    rw [leaseHolder_concat, hheld]
    exact hholder
  intro held hafter
  show (readingsOf (recorded.calls ++ [call])).basis = _
  rw [readingsOf_concat]
  exact hbasis held hafter

/-- A call that leaves the holder and grants nothing. -/
theorem BurstKept.push_same (h : BurstKept (lease, recorded))
    (hallowed : call.event.Allowed (lease.held.map leaseId))
    (hnext : ∀ held, call.event.next held = held) (hprolongs : call.prolongs = false) :
    BurstKept (lease, ⟨channel, recorded.calls ++ [call]⟩) := by
  apply h.push hallowed (hnext _)
  intro held hheld
  unfold Readings.next
  rw [hprolongs]
  exact h.basis held hheld

theorem start_kept (channel : C) : BurstKept ((⟨none⟩, ⟨channel, []⟩) : Burst C) := by
  refine ⟨Tenure.disciplined_nil, rfl, ?_⟩
  intro held hheld
  cases hheld

variable [LeaseChannel C]

theorem release_kept (h : BurstKept (lease, recorded)) :
    BurstKept (lease.release recorded) ∧ (lease.release recorded).1.held = none ∧
      Silent (lease, recorded) (lease.release recorded) := by
  unfold BurstLease.release
  cases hheld : lease.held with
  | none => exact ⟨h, hheld, Silent.refl _⟩
  | some held =>
    refine ⟨?_, rfl, silent_push rfl⟩
    apply h.push
    · rw [hheld]
      rfl
    · rfl
    intro other hother
    cases hother

theorem releaseIfIdle_kept (now : Nat) (h : BurstKept (lease, recorded))
    : BurstKept (lease.releaseIfIdle now recorded) := by
  unfold BurstLease.releaseIfIdle
  split
  · exact (release_kept h).1
  · exact h

theorem renewIfDue_kept {now : Nat} (h : BurstKept (lease, recorded))
    (hlatest : (readingsOf recorded.calls).latest = now) :
    BurstKept (lease.renewIfDue now recorded) ∧
      (readingsOf (lease.renewIfDue now recorded).2.calls).latest = now ∧
      Renewed now (lease.renewIfDue now recorded) ∧
      Silent (lease, recorded) (lease.renewIfDue now recorded) := by
  unfold BurstLease.renewIfDue
  cases hheld : lease.held with
  | none =>
    refine ⟨h, hlatest, ?_, Silent.refl _⟩
    intro held hsome
    have hsome : lease.held = some held := hsome
    rw [hheld] at hsome
    cases hsome
  | some held =>
    dsimp only
    by_cases hyoung : now - held.grantedAt < leaseRenewAfter
    · rw [if_pos hyoung]
      refine ⟨h, hlatest, ?_, Silent.refl _⟩
      intro other hsome
      have hsome : lease.held = some other := hsome
      rw [hheld] at hsome
      cases hsome
      exact hyoung
    rw [if_neg hyoung]
    have hmine : (lease.held.map leaseId) = some held.leaseId := by rw [hheld]; rfl
    simp only [renew, ask]
    generalize renew held.leaseId recorded.channel = answered
    obtain ⟨answer, channel⟩ := answered
    cases answer with
    | ok granted =>
      refine ⟨?_, ?_, ?_, silent_push rfl⟩
      · apply h.push
        · exact hmine
        · exact hmine
        intro other hother
        cases hother
        show some (readingsOf recorded.calls).latest = some now
        rw [hlatest]
      · show (readingsOf (recorded.calls ++ [_])).latest = now
        rw [readingsOf_concat]
        exact hlatest
      intro other hother
      cases hother
      show now - now < leaseRenewAfter
      rw [Nat.sub_self]
      decide
    | error failure =>
      have hrefused : BurstKept
          (lease, ⟨channel, recorded.calls ++ [.renewed held.leaseId (.error failure)]⟩) :=
        h.push_same hmine (fun _ => rfl) rfl
      obtain ⟨hkept, hnone, hsilent⟩ := release_kept hrefused
      refine ⟨hkept, ?_, ?_, (silent_push rfl).trans hsilent⟩
      · unfold BurstLease.release
        rw [hheld]
        show (readingsOf (recorded.calls ++ [_] ++ [_])).latest = now
        rw [readingsOf_concat, readingsOf_concat]
        exact hlatest
      intro other hother
      rw [hnone] at hother
      cases hother

structure Obtained (started : Nat) (burst : Burst C) (leaseId : LeaseId) (after : Burst C) : Prop where
  kept : BurstKept after
  held : after.1.held.map HeldLease.leaseId = some leaseId
  renewed : Renewed started after
  silent : Silent burst after

theorem heldOrAcquired_obtains (resource : ResourceKey) {started : Nat} (h : BurstKept burst)
    (hlatest : (readingsOf burst.2.calls).latest = started) (hrenewed : Renewed started burst) :
    (∃ leaseId after, burst.1.heldOrAcquired resource started burst.2 = (.ok leaseId, after) ∧
      Obtained started burst leaseId after) ∨
    ∃ failure after, burst.1.heldOrAcquired resource started burst.2 = (.error failure, after) ∧
      BurstKept after ∧ after.1.held = none ∧
      after.2.calls = burst.2.calls ++ [.acquired resource (.error failure)] := by
  obtain ⟨lease, recorded⟩ := burst
  dsimp only at hlatest ⊢
  unfold BurstLease.heldOrAcquired
  cases hheld : lease.held with
  | some held =>
    left
    exact ⟨held.leaseId, (lease, recorded), rfl, h, by rw [hheld]; rfl, hrenewed, Silent.refl _⟩
  | none =>
    have hmine : lease.held.map leaseId = none := by rw [hheld]; rfl
    simp only [acquire, ask]
    generalize acquire resource recorded.channel = answered
    obtain ⟨answer, channel⟩ := answered
    cases answer with
    | ok leaseId =>
      left
      refine ⟨leaseId, _, rfl, ?_, rfl, ?_, silent_push rfl⟩
      · apply h.push
        · exact hmine
        · rfl
        intro other hother
        cases hother
        show some (readingsOf recorded.calls).latest = some started
        rw [hlatest]
      intro other hother
      cases hother
      show started - started < leaseRenewAfter
      rw [Nat.sub_self]
      decide
    | error failure =>
      right
      refine ⟨failure, _, rfl, ?_, hheld, rfl⟩
      exact h.push_same hmine (fun _ => rfl) rfl

theorem settle_kept (result : BridgeExchangeResult) (h : BurstKept (lease, recorded)) :
    BurstKept (lease.settle result recorded) ∧
      (result.isMatched = false → (lease.settle result recorded).1.held = none) ∧
      Silent (lease, recorded) (lease.settle result recorded) := by
  have hrelease := release_kept h
  unfold BurstLease.settle
  split
  next response held hheld =>
    refine ⟨?_, ?_, silent_push rfl⟩
    · apply h.push
      · trivial
      · rw [hheld]
        rfl
      intro other hother
      cases hother
      exact h.basis held hheld
    intro hunmatched
    cases hunmatched
  · exact ⟨hrelease.1, fun _ => hrelease.2.1, hrelease.2.2⟩

theorem exchange_kept (resource : ResourceKey) (report : FeatureReport) (h : BurstKept (lease, recorded)) :
    BurstKept (lease.exchange resource report recorded).2 ∧
      ((lease.exchange resource report recorded).1.isMatched = false →
        (lease.exchange resource report recorded).2.1.held = none) ∧
      ∃ fresh, (lease.exchange resource report recorded).2.2.calls = recorded.calls ++ fresh ∧
        ExchangeCalls resource report (now recorded.channel).1 recorded.calls
          (lease.exchange resource report recorded).1 fresh := by
  generalize hreading : now recorded.channel = reading
  have hnow : now recorded = (reading.1, ⟨reading.2, recorded.calls ++ [.read reading.1]⟩) := by
    show ask now read recorded = _
    unfold ask
    rw [hreading]
  obtain ⟨started, channel⟩ := reading
  have hread : BurstKept (lease, ⟨channel, recorded.calls ++ [.read started]⟩) :=
    h.push_same trivial (fun _ => rfl) rfl
  have hlatest : (readingsOf (recorded.calls ++ [.read started])).latest = started := by
    rw [readingsOf_concat]
    rfl
  have hreads : Silent (lease, recorded) (lease, ⟨channel, recorded.calls ++ [.read started]⟩) :=
    silent_push rfl
  have hrenew := renewIfDue_kept hread hlatest
  unfold BurstLease.exchange
  rw [hnow]
  dsimp only
  generalize lease.renewIfDue started
    (⟨channel, recorded.calls ++ [.read started]⟩ : RecordedChannel C) = renewed at hrenew ⊢
  obtain ⟨hkept, hlatest, hrenewed, hsilent⟩ := hrenew
  have hprepared := hreads.trans hsilent
  rcases heldOrAcquired_obtains resource hkept hlatest hrenewed with
    ⟨leaseId, after, heq, hobtained⟩ | ⟨failure, after, heq, hafter, hnone, hcalls⟩
  · rw [heq]
    dsimp only
    obtain ⟨prepared, hpreparedCalls, hquiet⟩ := hprepared.trans hobtained.silent
    have hpreparedCalls : after.2.calls = recorded.calls ++ prepared := hpreparedCalls
    have hholder : leaseHolder (recorded.calls ++ prepared) = some leaseId := by
      rw [← hpreparedCalls, hobtained.kept.holder, hobtained.held]
    have hfresh : Fresh started (recorded.calls ++ prepared) := by
      cases hheld : after.1.held with
      | none =>
        have hsome := hobtained.held
        rw [hheld] at hsome
        cases hsome
      | some held =>
        rw [← hpreparedCalls]
        exact fresh_of_basis (hobtained.kept.basis held hheld) (hobtained.renewed held hheld)
    simp only [exchangeLeased, ask]
    generalize exchangeLeased leaseId report after.2.channel = answered
    have hsent : BurstKept (after.1, ⟨answered.2, after.2.calls ++ [.exchanged leaseId report answered.1]⟩) :=
      hobtained.kept.push_same hobtained.held (fun _ => rfl) rfl
    obtain ⟨hsettledKept, hunmatched, settled, hsettledCalls, hsettledQuiet⟩ := settle_kept answered.1 hsent
    refine ⟨hsettledKept, hunmatched, prepared ++ .exchanged leaseId report answered.1 :: settled, ?_, ?_⟩
    · rw [hsettledCalls]
      simp [hpreparedCalls]
    · exact .sent prepared settled leaseId answered.1 hquiet hsettledQuiet hholder hfresh
  · rw [heq]
    obtain ⟨prepared, hpreparedCalls, hquiet⟩ := hprepared
    refine ⟨hafter, fun _ => hnone, prepared ++ [.acquired resource (.error failure)], ?_, ?_⟩
    · show after.2.calls = _
      rw [hcalls, hpreparedCalls, append_assoc]
    · exact .refused prepared failure hquiet

theorem op_kept (op : LeaseOp) (h : BurstKept burst) : BurstKept (op.run burst) := by
  cases op with
  | exchange resource report => exact (exchange_kept resource report h).1
  | releaseIfIdle now => exact releaseIfIdle_kept now h
  | release => exact (release_kept h).1

theorem run_kept (ops : List LeaseOp) (channel : C) : BurstKept (runLease ops channel) := by
  unfold runLease
  have h := start_kept channel
  generalize ((⟨none⟩, ⟨channel, []⟩) : Burst C) = burst at h
  induction ops generalizing burst with
  | nil => exact h
  | cons op ops ih => exact ih (op.run burst) (op_kept op h)

/-- A grant is given back once before the next acquire or still held. An exchange sends its report at most
once, under the held lease and while that is young, and keeps no lease after an answer that did not match. -/
theorem burst_lease_discipline (channel : C) (ops : List LeaseOp) :
    GrantsReturned ((runLease ops channel).1.held.map leaseId) (runLease ops channel).2.calls ∧
      ∀ resource report, ∃ fresh,
        ((LeaseOp.exchange resource report).run (runLease ops channel)).2.calls =
          (runLease ops channel).2.calls ++ fresh ∧
        ExchangeCalls resource report (now (runLease ops channel).2.channel).1
          (runLease ops channel).2.calls
          ((runLease ops channel).1.exchange resource report (runLease ops channel).2).1 fresh ∧
        (((runLease ops channel).1.exchange resource report (runLease ops channel).2).1.isMatched = false →
          ((LeaseOp.exchange resource report).run (runLease ops channel)).1.held = none) := by
  have h := run_kept ops channel
  constructor
  · rw [← h.holder]
    exact grantsReturned_of_disciplined h.disciplined
  intro resource report
  obtain ⟨_, hunmatched, fresh, hcalls, hexchange⟩ := exchange_kept resource report h
  exact ⟨fresh, hcalls, hexchange, hunmatched⟩

end Steps

end UhidRelay

end HyperfluxNext
