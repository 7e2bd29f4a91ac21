/-
This file tells what a refusal reports. It is a service error with the status and with what the body says, unless the
body cannot be made out, and then it is no failure of a storage at all.
-/
import PathStore.Proofs.Program.Outcomes
import PathStore.Service.Answer

namespace PathStore.Answer

variable (platform : Platform)

/-- What a body with a text says: the error that it names as an object, or its text. -/
def messageOf (content : Bytes) (text : LooseText) : Reply :=
  match Json.ofBytes platform.nesting content with
  | .ok value => ((value.member? ("error" : LooseText)).filter Json.isTruthy).getD (.text text)
  | .error _ => .text text

/-- Whether a body holds an integer with too many digits, or containers that are nested too deeply. -/
def Overwhelms (content : Bytes) : Prop :=
  (∃ count, Json.ofBytes platform.nesting content = .error (.tooManyDigits count)) ∨
    Json.ofBytes platform.nesting content = .error .tooNested

/-- Whether a body has a text and can be tried as a value. -/
def IsLegible (response : Response) (content : Bytes) (text : LooseText) : Prop :=
  Answer.text platform response content = .ok text ∧ ¬Overwhelms platform content

section Refusal

variable {platform} {response : Response} {content : Bytes} {text : LooseText}

theorem namedError?_of_not_overwhelms (text : LooseText) (light : ¬Overwhelms platform content) :
    ∃ named, namedError? platform.nesting content = .ok named ∧
      named.getD (.text text) = messageOf platform content text := by
  rw [namedError?, messageOf]
  cases held : Json.ofBytes platform.nesting content with
  | ok value =>
      cases value with
      | object members => exact ⟨_, rfl, rfl⟩
      | _ => exact ⟨none, rfl, rfl⟩
  | error fault =>
      cases fault with
      | tooManyDigits count => exact absurd (.inl ⟨count, held⟩) light
      | tooNested => exact absurd (.inr held) light
      | _ => exact ⟨none, rfl, rfl⟩

theorem namedError?_of_overwhelms (overwhelms : Overwhelms platform content) :
    ∃ failure, namedError? platform.nesting content = .error failure ∧ failure.category.isStorage = false := by
  rw [namedError?]
  rcases overwhelms with ⟨count, held⟩ | held <;> rw [held] <;> exact ⟨_, rfl, rfl⟩

/-- A refusal with a legible body reports its status and what the body says. -/
theorem refusal_of_isLegible (legible : IsLegible platform response content text) :
    refusal platform response content =
      .service ⟨response.status, messageOf platform content text, response.header? "X-Reqid"⟩ := by
  obtain ⟨named, found, same⟩ := namedError?_of_not_overwhelms text legible.2
  rw [refusal, refusedWith, legible.1, found]
  simp only [bind, Except.bind, pure, Except.pure, same]

/-- The text of a body is missing only where its charset cannot be told or has no text for it. -/
theorem text_error_cases {failure : Failure}
    (unreadable : Answer.text platform response content = .error failure) :
    failure = .wrongType ∨ ∃ fault, failure = .charset fault := by
  have untold {header : String} {failure : Failure} (failed : MediaType.charset? header = .error failure) :
      failure = .wrongType := by
    rw [MediaType.charset?, MediaType.parameters] at failed
    simp only [bind, Except.bind, pure, Except.pure] at failed
    split at failed
    · rename_i fault mixed
      split at mixed
      · obtain rfl := Except.error.inj mixed
        exact (Except.error.inj failed).symm
      · cases mixed
    · cases failed
  rw [Answer.text] at unreadable
  split at unreadable
  · cases unreadable
  · obtain untellable | ⟨name, -, read⟩ := Outcome.bind_eq_error_iff.mp unreadable
    · rw [charset?] at untellable
      split at untellable
      · exact .inl (untold untellable)
      · cases untellable
    · split at read
      · obtain ⟨fault, -, same⟩ := Outcome.mapError_eq_error_iff.mp read
        exact .inr ⟨fault, same.symm⟩
      · cases read

theorem isStorage_of_text_error {failure : Failure}
    (unreadable : Answer.text platform response content = .error failure) :
    failure.category.isStorage = false := by
  obtain rfl | ⟨fault, rfl⟩ := text_error_cases unreadable
  · rfl
  · cases fault <;> rfl

/-- A refusal whose body is not legible is no failure of a storage. -/
theorem isStorage_refusal (illegible : ∀ text, ¬IsLegible platform response content text) :
    (refusal platform response content).category.isStorage = false := by
  rw [refusal, refusedWith]
  cases read : Answer.text platform response content with
  | error failure => exact isStorage_of_text_error read
  | ok text =>
      have overwhelms : Overwhelms platform content := Classical.not_not.mp fun light => illegible text ⟨read, light⟩
      obtain ⟨failure, failed, foreign⟩ := namedError?_of_overwhelms overwhelms
      simp only [bind, Except.bind, failed]
      exact foreign

end Refusal
end PathStore.Answer
