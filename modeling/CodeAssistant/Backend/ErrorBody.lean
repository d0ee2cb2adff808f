/-
# What an error body says

A backend that reports an error may say why in its body: under `detail`, as a text or as a list of
items with messages, or under `error`, as a text or as an object with a message.  The first that
is not blank is taken, `detail` before `error`, and shown as it stands.

A `detail` of any other form is passed over.  An `error` of any other form is not: such a body
says nothing.
-/
import CodeAssistant.Codec.Record
import CodeAssistant.Text.Blank

namespace CodeAssistant.ErrorBody

/-- A text, unless it is blank. -/
def sayingSomething (text : String) : Option String := if Text.isBlank text then none else some text

/-- An item of a list of errors, with its message. -/
def itemCodec : Codec (Option String) :=
  (Codec.record "DetailItem"
    (.cons ⟨"msg", Codec.text.nullable, .keyed none, Option.isNone⟩ .nil)).reshape
    (fun (msg, ()) => msg) (fun msg => (msg, ()))

/-- The messages of some items, in one line. -/
def joined (items : List (Option String)) : String :=
  "; ".intercalate (items.filterMap (·.bind sayingSomething))

/-- What `detail` says. -/
def ofDetail : Json → Option String
  | .string text => sayingSomething text
  | detail => (itemCodec.list.ofTree detail).bind fun items => sayingSomething (joined items)

/-- What `error` says; none if it has a form of its own. -/
def ofError? : Json → Option (Option String)
  | .string text => some (sayingSomething text)
  | .object members =>
    (Codec.record "ErrorFields"
      (.cons ⟨"message", Codec.text.nullable, .keyed none, Option.isNone⟩ .nil)).ofTree
        (.object members) |>.map fun (message, ()) => message.bind sayingSomething
  | _ => none

/-- The two parts of an error body, whatever form they have. -/
def partsCodec : Codec (Option Json × Option Json) :=
  (Codec.record "ErrorPayload"
    (.cons ⟨"detail", Codec.tree.nullable, .keyed none, Option.isNone⟩
      (.cons ⟨"error", Codec.tree.nullable, .keyed none, Option.isNone⟩ .nil))).reshape
    (fun (detail, error, ()) => (detail, error)) (fun (detail, error) => (detail, error, ()))

/-- What an error body says, if it has the form of one. -/
def message? (body : String) : Option String :=
  match partsCodec.decode body with
  | .error _ => none
  | .ok (detail, error) =>
    match error with
    | none => detail.bind ofDetail
    | some error => (ofError? error).bind fun said => (detail.bind ofDetail).or said

end CodeAssistant.ErrorBody
