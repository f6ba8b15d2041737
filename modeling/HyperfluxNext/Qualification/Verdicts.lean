import HyperfluxNext.Qualification.Lifecycle

namespace HyperfluxNext

namespace Qualification

open List

inductive HttpStatus where
  | badRequest | conflict
deriving DecidableEq

structure ActionFailure where
  status : HttpStatus
  message : String
  stateChanged : Bool
deriving DecidableEq

def ActionFailure.unchanged (status : HttpStatus) (message : String) : ActionFailure := ⟨status, message, false⟩

structure ActionInput where
  viewRevision : Nat
  confirmation : Option String
  observations : Std.TreeMap String String

/-- The outcome that the answer to a prompt declares. -/
def answered (input : ActionInput) (prompt : ObservationPrompt) : Option String :=
  (input.observations[prompt.id]?).bind fun answer => (prompt.choices.find? (·.id = answer)).map (·.outcome)

/-- Every prompt has known outcomes, and the input answers each with one of its choices and nothing else. -/
structure Assigned (prompts : List ObservationPrompt) (input : ActionInput) : Prop where
  complete : input.observations.size = prompts.length
  known : ∀ prompt ∈ prompts, ∀ choice ∈ prompt.choices, choice.outcome ∈ ["pass", "fail", "unclear"]
  declared : ∀ prompt ∈ prompts, ∃ answer, input.observations[prompt.id]? = some answer ∧
    ∃ choice ∈ prompt.choices, choice.id = answer

def outcomes (input : ActionInput) (prompts : List ObservationPrompt) : List String :=
  prompts.filterMap (answered input)

def ObservationVerdict.status : ObservationVerdict → StageStatus
  | .pass => .passed
  | .fail => .failed
  | .unclear => .blocked

variable {input : ActionInput} {prompts rest : List ObservationPrompt} {prompt : ObservationPrompt}
  (verdict : ObservationVerdict)

theorem Assigned.answered (h : Assigned prompts input) (hprompt : prompt ∈ prompts) : ∃ answer choice,
    input.observations[prompt.id]? = some answer ∧ prompt.choices.find? (·.id = answer) = some choice ∧
      choice.outcome ∈ ["pass", "fail", "unclear"] ∧ Qualification.answered input prompt = some choice.outcome := by
  obtain ⟨answer, hanswer, choice, hchoice, hid⟩ := h.declared prompt hprompt
  cases hfind : prompt.choices.find? (·.id = answer) with
  | none => exact absurd (decide_eq_true hid) (find?_eq_none.mp hfind choice hchoice)
  | some found =>
    refine ⟨answer, found, hanswer, hfind, h.known prompt hprompt found (mem_of_find?_eq_some hfind), ?_⟩
    rw [Qualification.answered, hanswer, Option.bind_some, hfind, Option.map_some]

theorem Assigned.perm (h : Assigned prompts input) {other : List ObservationPrompt} (hperm : other.Perm prompts) :
    Assigned other input :=
  ⟨h.complete.trans hperm.length_eq.symm, fun prompt hprompt => h.known prompt (hperm.mem_iff.mp hprompt),
    fun prompt hprompt => h.declared prompt (hperm.mem_iff.mp hprompt)⟩

end Qualification

end HyperfluxNext
