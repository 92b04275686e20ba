import Courier.Text.Percent
import Courier.Text.Utf16

/-!
# The body of a message

A body is text, or octets that are meant to be UTF-8. Its length is counted in UTF-16 units, the
measure that the provider applies, and it is sent percent-encoded.

* `Body.units?`: the units of a body, or where and why it is not proper text.
* `Body.percentForm?`: what stands for the body in the form payload.
-/

namespace Courier

/-- The body of a message as it was given. -/
inductive Body where
  | text (t : Text)
  | octets (bs : Bytes)
  deriving DecidableEq, Repr

/-- Why a body is not proper text, and from which character or octet on, if that is known
(`EncodingFailure`). -/
structure EncodingFailure where
  reason : Text
  position : Option Int
  deriving DecidableEq, Repr

/-- The sentence for a body that is not proper text (`EncodingFailure.describe`). -/
def EncodingFailure.describe (f : EncodingFailure) : Text :=
  let place : Text := match f.position with
    | none => []
    | some p => Text.ofString " at position " ++ Text.ofInt p
  Text.ofString "Message body is not valid UTF-8" ++ place ++ Text.ofString ": " ++ f.reason

namespace Body

/-- The text of a body, or why it has none. Positions in text count code points, those in octets
count octets. -/
def text? : Body → Except EncodingFailure Text
  | .text t => match Utf8.encode? t with
    | .ok _ => .ok t
    | .error run => .error ⟨Text.ofString "surrogates not allowed", some run.start⟩
  | .octets bs => match Utf8.decode? bs with
    | .ok t => .ok t
    | .error fault => .error ⟨Text.ofString fault.reason.message, some fault.start⟩

/-- The UTF-16 units of a body, or why it has none (`utf8_to_utf16_units`). -/
def units? (b : Body) : Except EncodingFailure (List UInt16) := b.text?.map Utf16.encode

/-- The percent form of a body's octets, or the first run of surrogates in its text
(`percent_encode`). -/
def percentForm? : Body → Except Utf8.Unencodable Text
  | .text t => Percent.encodeText? t
  | .octets bs => .ok (Percent.encode bs)

end Body

end Courier
