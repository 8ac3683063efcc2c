import ServerResources.Http.Delivery
import ServerResources.Proofs.Server.Change

/-!
# Whether a response can be sent

Delivering a response changes nothing about it, so a client receives what was meant for it or
an error, and an error only if there is an infinity or a surrogate in what would be written.
A response without issues that is made of texts is sent exactly if each of them can be written;
the answers to writes that succeed are such responses.
-/

namespace ServerResources

namespace Json

variable {value : Json} {texts : List String}

theorem leaves_ofStrings (texts : List String) :
    (ofStrings texts).leaves = texts.map .string := by
  rw [ofStrings, leaves]
  induction texts with
  | nil => rfl
  | cons text rest ih =>
      rw [List.map_cons, itemLeaves, leaves_string, ih]
      rfl

theorem obstacle?_eq_none_iff (value : Json) :
    value.obstacle? = none ↔
      value.leaves.any isInfinite = false ∧ value.leaves.any isUnencodable = false := by
  rw [obstacle?]
  cases value.leaves.any isInfinite <;> cases value.leaves.any isUnencodable <;> simp

/-- The only obstacle to texts is one of them. -/
theorem obstacle?_of_texts (textual : value.leaves = texts.map .string) :
    value.obstacle? = if texts.all Text.isEncodable then none else some .surrogate := by
  have finite : value.leaves.any isInfinite = false := by
    rw [textual, List.any_map, List.any_eq_false]
    simp [isInfinite]
  have broken : value.leaves.any isUnencodable = !texts.all Text.isEncodable := by
    rw [textual, List.any_map, List.not_all_eq_any_not]
    rfl
  rw [obstacle?, finite, broken]
  cases texts.all Text.isEncodable <;> rfl

end Json

namespace Http

variable {response : Response} {request : Request} {texts : List String}

namespace Delivery

/-- Whether the client receives that the request succeeded. -/
def isSuccess (delivery : Delivery) : Bool :=
  200 ≤ delivery.status && delivery.status < 300

/-- Whether the request succeeded without the client receiving so, since there is a text in
the response that cannot be written. -/
def isUnreported : Delivery → Bool
  | .unsendable response .surrogate => response.isSuccess
  | _ => false

end Delivery

/-- The response is about no issue, and the names and values in its body are texts. -/
structure Response.Textual (response : Response) (texts : List String) : Prop where
  issues_eq : response.issues = []
  leaves_eq : response.body.leaves = texts.map .string

theorem Response.Textual.withWarnings (textual : response.Textual texts)
    (warnings : List Warning) : { response with warnings := warnings }.Textual texts where
  issues_eq := textual.issues_eq
  leaves_eq := textual.leaves_eq

/-- What is delivered is the response. -/
@[simp] theorem response_deliver (response : Response) (request : Request) :
    (response.deliver request).response = response := by
  unfold Response.deliver
  split <;> rfl

/-- The client receives the response unless something in it cannot be sent. -/
theorem deliver_eq_sent_iff (response : Response) (request : Request) :
    response.deliver request = .sent response ↔
      (response.written request).leaves.any Json.isInfinite = false ∧
        (response.written request).leaves.any Json.isUnencodable = false := by
  rw [← Json.obstacle?_eq_none_iff]
  unfold Response.deliver
  split
  next sendable => simp [sendable]
  next obstacle unsendable => simp [unsendable]

/-- Only what succeeded is received as a success, or is one that is unreported. -/
theorem isSuccess_of_deliver
    (carriedOut : (response.deliver request).isSuccess = true ∨
      (response.deliver request).isUnreported = true) : response.isSuccess = true := by
  unfold Response.deliver at carriedOut
  split at carriedOut
  next sendable =>
    rcases carriedOut with received | unreported
    · exact received
    · cases unreported
  next obstacle unsendable =>
    rcases carriedOut with received | unreported
    · cases received
    · cases obstacle with
      | infinity => cases unreported
      | surrogate => exact unreported

theorem deliver_of_textual (textual : response.Textual texts) (request : Request) :
    response.deliver request =
      if texts.all Text.isEncodable then .sent response else .unsendable response .surrogate := by
  have leaves : (response.written request).leaves = texts.map .string := by
    rw [Response.written, textual.issues_eq, Json.leaves]
    simp only [List.map_nil, Json.itemLeaves, List.append_nil, textual.leaves_eq]
  rw [Response.deliver, Json.obstacle?_of_texts leaves]
  cases texts.all Text.isEncodable <;> rfl

/-- A success that is made of texts is received exactly if all of them can be written. -/
theorem isSuccess_deliver_iff (textual : response.Textual texts)
    (success : response.isSuccess = true) (request : Request) :
    (response.deliver request).isSuccess = true ↔ ∀ text ∈ texts, Text.isEncodable text = true := by
  rw [deliver_of_textual textual, ← List.all_eq_true]
  cases texts.all Text.isEncodable with
  | true => exact iff_of_true success rfl
  | false => exact iff_of_false Bool.false_ne_true Bool.false_ne_true

/-- Otherwise it is unreported. -/
theorem isUnreported_deliver (textual : response.Textual texts)
    (success : response.isSuccess = true)
    (unreceived : ¬ (response.deliver request).isSuccess = true) :
    (response.deliver request).isUnreported = true := by
  rw [deliver_of_textual textual] at unreceived ⊢
  cases encodable : texts.all Text.isEncodable with
  | true =>
      rw [encodable] at unreceived
      exact (unreceived success).elim
  | false => exact success

end Http

end ServerResources
