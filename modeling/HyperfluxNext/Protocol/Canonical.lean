import HyperfluxNext.Library.Procedure
import HyperfluxNext.Protocol.Messages

namespace HyperfluxNext

open Procedure

/-- The one wire error the response checks below raise, with its text. -/
inductive ProtocolWireError where
  | invalidResponse (reason : String)
deriving DecidableEq

def validateTransactionTerminal (terminal : TransactionTerminal) : Except ProtocolWireError Unit := do
  reject (terminal.deliveredFrames.get > terminal.declaredFrames.get)
    (.invalidResponse "transaction delivered more frames than declared")
  reject (terminal.liveWriteExecuted = false ∧ (terminal.deliveredFrames.get ≠ 0 ∨
    terminal.sideEffectCertainty ≠ .none))
    (.invalidResponse "transaction side-effect facts contradict live-write state")
  reject (terminal.automaticRetry ∧ (terminal.liveWriteExecuted ∨
    terminal.sideEffectCertainty ≠ .none))
    (.invalidResponse "uncertain hardware transaction permits automatic retry")
  match terminal.state with
  | .succeeded =>
    reject (terminal.errorKind.isSome ∨ terminal.supersededBy.isSome)
      (.invalidResponse "successful transaction carries failure or supersession detail")
  | .failed | .revoked =>
    reject (terminal.errorKind.isNone ∨ terminal.supersededBy.isSome)
      (.invalidResponse "failed transaction lacks exactly one failure category")
  | .superseded =>
    reject (terminal.supersededBy.isNone ∨ terminal.errorKind.isSome ∨ terminal.liveWriteExecuted)
      (.invalidResponse "superseded transaction has contradictory terminal detail")
  | .created | .validated | .ownershipBound | .generationBound | .queued | .sent | .healthPending =>
    .error (.invalidResponse "terminal transaction carries a nonterminal state")

def validateTransactionProgress (progress : TransactionProgress) : Except ProtocolWireError Unit := do
  reject (progress.deliveredFrames.get > progress.declaredFrames.get ∨
    progress.state ∈ [TransactionState.succeeded, .failed, .revoked, .superseded])
    (.invalidResponse "transaction progress carries impossible frame or state facts")
  reject (progress.liveWriteExecuted = false ∧ (progress.deliveredFrames.get ≠ 0 ∨
    progress.sideEffectCertainty ≠ .none))
    (.invalidResponse "transaction progress contradicts live-write state")

def validateTransactionResult : TransactionResult → Except ProtocolWireError Unit
  | .progress progress => validateTransactionProgress progress
  | .terminal terminal => validateTransactionTerminal terminal
  | .unavailable unavailable =>
    reject (unavailable.errorKind ∉ [ProtocolErrorKind.outcomeUnknown, .outcomeEvicted])
      (.invalidResponse "unavailable transaction has an unrelated error category")

/-- The response encoder takes this result. -/
def Encodable (result : TransactionResult) : Prop := validateTransactionResult result = .ok ()

instance (result : TransactionResult) : Decidable (Encodable result) := inferInstanceAs (Decidable (_ = _))

def TerminalDetail (terminal : TransactionTerminal) : Prop :=
  (terminal.state = .succeeded ∧ terminal.errorKind = none ∧ terminal.supersededBy = none) ∨
    ((terminal.state = .failed ∨ terminal.state = .revoked) ∧ terminal.errorKind.isSome ∧
      terminal.supersededBy = none) ∨
    (terminal.state = .superseded ∧ terminal.supersededBy.isSome ∧ terminal.errorKind = none ∧
      terminal.liveWriteExecuted = false)

theorem encodable_terminal {terminal : TransactionTerminal}
    (hframes : terminal.deliveredFrames.get ≤ terminal.declaredFrames.get)
    (hlive : terminal.liveWriteExecuted = false →
      terminal.deliveredFrames.get = 0 ∧ terminal.sideEffectCertainty = .none)
    (hretry : terminal.automaticRetry →
      terminal.liveWriteExecuted = false ∧ terminal.sideEffectCertainty = .none)
    (hdetail : TerminalDetail terminal) : Encodable (.terminal terminal) := by
  have hfirst : ¬ terminal.deliveredFrames.get > terminal.declaredFrames.get := Nat.not_lt.mpr hframes
  have hsecond : ¬ (terminal.liveWriteExecuted = false ∧ (terminal.deliveredFrames.get ≠ 0 ∨
      terminal.sideEffectCertainty ≠ .none)) := by
    intro hbad
    obtain ⟨hzero, hnone⟩ := hlive hbad.1
    rcases hbad.2 with h | h
    · exact h hzero
    · exact h hnone
  have hthird : ¬ (terminal.automaticRetry = true ∧ (terminal.liveWriteExecuted = true ∨
      terminal.sideEffectCertainty ≠ .none)) := by
    intro hbad
    obtain ⟨hfalse, hnone⟩ := hretry hbad.1
    rcases hbad.2 with h | h
    · rw [hfalse] at h
      cases h
    · exact h hnone
  show validateTransactionTerminal terminal = .ok ()
  unfold validateTransactionTerminal
  rw [reject_of_not hfirst, reject_of_not hsecond, reject_of_not hthird]
  rcases hdetail with ⟨hs, he, hb⟩ | ⟨hs, he, hb⟩ | ⟨hs, hb, he, hl⟩
  · simp [hs, he, hb, reject, bind, Except.bind]
  · rcases hs with hs | hs <;> simp [hs, hb, Option.isSome_iff_ne_none.mp he, reject, bind, Except.bind]
  · simp [hs, he, Option.isSome_iff_ne_none.mp hb, hl, reject, bind, Except.bind]

theorem encodable_progress {progress : TransactionProgress}
    (hstate : progress.state ∉ [TransactionState.succeeded, .failed, .revoked, .superseded])
    (hframes : progress.deliveredFrames.get = 0) (hcertainty : progress.sideEffectCertainty = .none) :
    Encodable (.progress progress) := by
  show validateTransactionProgress progress = .ok ()
  unfold validateTransactionProgress
  rw [reject_of_not, reject_of_not]
  · rfl
  · simp [hframes, hcertainty]
  intro hbad
  rcases hbad with h | h
  · omega
  · exact hstate h

end HyperfluxNext
