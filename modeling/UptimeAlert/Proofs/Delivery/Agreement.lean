import UptimeAlert.Notification

namespace UptimeAlert

namespace DeliveryResult

def message? (r : DeliveryResult) : Option String :=
  match r.outcome with
  | .ok message => some message
  | .error _ => none

def error? (r : DeliveryResult) : Option DeliveryError :=
  match r.outcome with
  | .ok _ => none
  | .error e => some e

def kind? (r : DeliveryResult) : Option ErrorKind :=
  r.error?.map DeliveryError.kind

/-- What the remote side answered to a delivery that failed. -/
def response (r : DeliveryResult) : Value :=
  (r.error?.map DeliveryError.response).getD .null

@[simp]
theorem message?_success (channel : String) :
    (success channel).message? = some "Sent Successfully." := rfl

@[simp]
theorem error?_success (channel : String) : (success channel).error? = none := rfl

@[simp]
theorem message?_error (channel : String) (e : DeliveryError) :
    (DeliveryResult.mk channel (.error e)).message? = none := rfl

@[simp]
theorem error?_error (channel : String) (e : DeliveryError) :
    (DeliveryResult.mk channel (.error e)).error? = some e := rfl

@[simp]
theorem failure_eq (channel : String) (kind : ErrorKind) (message : String) :
    failure channel kind message = ⟨channel, .error ⟨kind, message, .null⟩⟩ := rfl

end DeliveryResult

/-- What the answers of a transport mean to a channel: what was handed over is accepted, or the
transport failed, or it refused what it was given; and the payload that came with a failure. -/
structure Reception (Answer : Type) where
  Accepts : Answer → Prop
  Fails : Answer → Prop
  Refuses : Answer → Prop
  Answers : Answer → Value → Prop
  not_fails : ∀ a, Accepts a → ¬ Fails a
  not_refuses : ∀ a, Accepts a → ¬ Refuses a
  not_fails_of_refuses : ∀ a, Refuses a → ¬ Fails a

namespace Delivery

variable {Call Answer : Type}

/-- The course of a delivery that has a result: the calls made and the result. -/
inductive Course (channel : String) (means : Reception Answer) (answer : Call → Answer)
    (configured built : Prop) : List Call → DeliveryResult → Prop where
  | unconfigured (message : String) (h : ¬ configured) :
    Course channel means answer configured built [] (.failure channel .configuration message)
  | unbuilt (message : String) (h : configured) (hbuilt : ¬ built) :
    Course channel means answer configured built [] (.failure channel .invalidInput message)
  | accepted (call : Call) (h : configured) (ha : means.Accepts (answer call)) :
    Course channel means answer configured built [call] (.success channel)
  | failed (call : Call) (message : String) (response : Value) (h : configured)
    (ha : means.Fails (answer call))
    (hresponse : response ≠ .null → means.Answers (answer call) response) :
    Course channel means answer configured built [call]
      ⟨channel, .error ⟨.transport, message, response⟩⟩
  | refused (call : Call) (message : String) (h : configured) (ha : means.Refuses (answer call)) :
    Course channel means answer configured built [call] (.failure channel .invalidInput message)

/-- A result agrees with the calls that were made and with the answer of the transport. -/
structure Agrees (means : Reception Answer) (answer : Call → Answer) (configured built : Prop)
    (calls : List Call) (result : DeliveryResult) : Prop where
  atMostOne : calls.length ≤ 1
  ok_iff : result.error? = none ↔ ∃ call, calls = [call] ∧ means.Accepts (answer call)
  transport_iff :
    result.kind? = some .transport ↔ ∃ call, calls = [call] ∧ means.Fails (answer call)
  configuration_iff : result.kind? = some .configuration ↔ ¬ configured
  unconfigured : ¬ configured → calls = []
  invalidInput_iff :
    result.kind? = some .invalidInput ↔
      configured ∧ ((¬ built ∧ calls = []) ∨
        ∃ call, calls = [call] ∧ means.Refuses (answer call))
  message_iff : result.message?.isSome = true ↔ result.error? = none
  response : result.response ≠ .null →
    ∃ call, calls = [call] ∧ means.Answers (answer call) result.response

variable {channel : String} {means : Reception Answer} {answer : Call → Answer}
  {configured built : Prop} {calls : List Call} {result : DeliveryResult}

theorem Course.channel_eq (h : Course channel means answer configured built calls result) :
    result.channel = channel := by
  cases h <;> rfl

/-- In each course, what was asked of the channel, what it did and what it answers say the same. -/
theorem Course.agrees (h : Course channel means answer configured built calls result) :
    Agrees means answer configured built calls result := by
  cases h with
  | unconfigured message h =>
    constructor <;> simp [DeliveryResult.kind?, DeliveryResult.response, h]
  | unbuilt message h hbuilt =>
    constructor <;> simp [DeliveryResult.kind?, DeliveryResult.response, h, hbuilt]
  | accepted call h ha =>
    have hfails := means.not_fails _ ha
    have hrefuses := means.not_refuses _ ha
    constructor <;>
      simp [DeliveryResult.kind?, DeliveryResult.response, h, ha, hfails, hrefuses]
  | failed call message response h ha hresponse =>
    have haccepts : ¬ means.Accepts (answer call) := fun hacc => means.not_fails _ hacc ha
    have hrefuses : ¬ means.Refuses (answer call) := fun href =>
      means.not_fails_of_refuses _ href ha
    constructor <;>
      simp [DeliveryResult.kind?, DeliveryResult.response, h, ha, haccepts, hrefuses]
    exact hresponse
  | refused call message h ha =>
    have haccepts : ¬ means.Accepts (answer call) := fun hacc => means.not_refuses _ hacc ha
    have hfails := means.not_fails_of_refuses _ ha
    constructor <;> simp [DeliveryResult.kind?, DeliveryResult.response, h, ha, haccepts, hfails]

end Delivery

end UptimeAlert
