import Mathlib.Data.List.Basic
import Mathlib.Data.Option.Basic

/- The life of one request in a handler that sends a response wherever it stops: it is
   parsed, worked on, answered, and finished with the errors it has collected. Steps of
   the handler leave `Record`s: a step of the work that failed, and a response that was
   sent or was not. `Phase.Step` is what a handler may do, and a handler that does only
   that gives one answer, which says what came of the request (`OneAnswer`). -/
namespace Handler

variable {R E C N : Type}

/-- The responses a handler gives. -/
structure Replies (R : Type) where
  success : R → Prop
  malformed : R
  internal : R
  malformed_ne : malformed ≠ internal
  not_malformed : ¬success malformed
  not_internal : ¬success internal

inductive Record (R E C : Type) where
  | failed (e : E)
  | attempt (c : Option C) (response : R) (error : Option E)

/-- Where a request is. A handler that unwinds abandons it after the answer. -/
inductive Phase (R E : Type) where
  | working
  | answering (response : R) (errors : List E)
  | finished (errors : List E)
  | abandoned

def Record.failure : Record R E C → Option E
  | .failed e => some e
  | .attempt _ _ _ => none

def Record.attempted : Record R E C → Option (Option C × R × Option E)
  | .failed _ => none
  | .attempt c response error => some (c, response, error)

/-- The errors of a request that was not parsed. -/
def parseErrors : Except E N → List E
  | .ok _ => []
  | .error e => [e]

/-- Exactly one response was attempted, on `c`. It is a success exactly if the request was
parsed and no step of the work failed, and says that the request is malformed exactly if
it was not parsed; and the errors that are reported begin with what went wrong first. -/
structure OneAnswer (replies : Replies R) (parsed : Except E N) (c : C) (events : List (Record R E C))
    (reported : Option (List E)) : Prop where
  answered : ∃ response error,
    events.filterMap Record.attempted = [(some c, response, error)] ∧
    (replies.success response ↔ (∃ n, parsed = .ok n) ∧ events.filterMap Record.failure = []) ∧
    (response = replies.malformed ↔ ∃ e, parsed = .error e) ∧
    (response = replies.internal ↔ (∃ n, parsed = .ok n) ∧ events.filterMap Record.failure ≠ []) ∧
    ∀ errors, reported = some errors →
      errors = parseErrors parsed ++ events.filterMap Record.failure ++ error.toList

/-- Where the handling of a parsed message begins. -/
def Phase.start (replies : Replies R) : Except E N → Phase R E
  | .ok _ => .working
  | .error e => .answering replies.malformed [e]

/-- What a handler may do, with the events it leaves. -/
inductive Phase.Step (replies : Replies R) (c : C) : Phase R E → List (Record R E C) → Phase R E → Prop
  | stay (p : Phase R E) : Step replies c p [] p
  | fail (e : E) : Step replies c .working [.failed e] (.answering replies.internal [e])
  | succeed {response : R} : replies.success response →
      Step replies c .working [] (.answering response [])
  | attempt (response : R) (errors : List E) (error : Option E) :
      Step replies c (.answering response errors) [.attempt (some c) response error]
        (.finished (errors ++ error.toList))
  | abandon (errors : List E) : Step replies c (.finished errors) [] .abandoned

variable {replies : Replies R} {parsed : Except E N} {c : C} {p q : Phase R E}
  {l ev : List (Record R E C)} {response : R} {errors : List E}

/-- The response that is due, and what led to it. -/
inductive Due (replies : Replies R) : Except E N → List (Record R E C) → R → List E → Prop
  | malformed (e : E) : Due replies (.error e) [] replies.malformed [e]
  | internal (n : N) (e : E) : Due replies (.ok n) [.failed e] replies.internal [e]
  | success {response : R} (n : N) : replies.success response → Due replies (.ok n) [] response []

/-- The events of a request that has come to `p`. -/
def Phase.Sound (replies : Replies R) (parsed : Except E N) (c : C) (l : List (Record R E C)) :
    Phase R E → Prop
  | .working => (∃ n, parsed = .ok n) ∧ l = []
  | .answering response errors => Due replies parsed l response errors
  | .finished errors => OneAnswer replies parsed c l (some errors)
  | .abandoned => OneAnswer replies parsed c l none

theorem Phase.sound_start (replies : Replies R) (parsed : Except E N) (c : C) :
    Phase.Sound replies parsed c [] (.start replies parsed) := by
  cases parsed with
  | ok n => exact ⟨⟨n, rfl⟩, rfl⟩
  | error e => exact .malformed e

theorem Due.oneAnswer (h : Due replies parsed l response errors) (c : C) (error : Option E) :
    OneAnswer replies parsed c (l ++ [.attempt (some c) response error])
      (some (errors ++ error.toList)) := by
  refine ⟨⟨response, error, ?_⟩⟩
  cases h with
  | malformed e =>
    have hn := replies.not_malformed
    have hne := replies.malformed_ne
    simp [List.filterMap_cons, Record.attempted, Record.failure, parseErrors, hn, hne]
  | internal n e =>
    have hn := replies.not_internal
    have hne := replies.malformed_ne.symm
    simp [List.filterMap_cons, Record.attempted, Record.failure, parseErrors, hn, hne]
  | success n hs =>
    have hm : response ≠ replies.malformed := fun he => replies.not_malformed (he ▸ hs)
    have hi : response ≠ replies.internal := fun he => replies.not_internal (he ▸ hs)
    simp [Record.attempted, Record.failure, parseErrors, hs, hm, hi]

theorem OneAnswer.unreported (h : OneAnswer replies parsed c l (some errors)) :
    OneAnswer replies parsed c l none := by
  obtain ⟨response, error, ha, hs, hm, hi, -⟩ := h.answered
  exact ⟨response, error, ha, hs, hm, hi, nofun⟩

theorem Phase.Step.sound (hs : Phase.Step replies c p ev q)
    (h : Phase.Sound replies parsed c l p) : Phase.Sound replies parsed c (l ++ ev) q := by
  cases hs with
  | stay => simpa using h
  | fail e =>
    obtain ⟨⟨n, rfl⟩, rfl⟩ := h
    exact .internal n e
  | succeed hr =>
    obtain ⟨⟨n, rfl⟩, rfl⟩ := h
    exact .success n hr
  | attempt response errors error => exact Due.oneAnswer h c error
  | abandon errors =>
    rw [List.append_nil]
    exact OneAnswer.unreported h

end Handler
