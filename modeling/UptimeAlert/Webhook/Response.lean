import UptimeAlert.Json.Reader
import UptimeAlert.Platform
import UptimeAlert.Text.Utf8

namespace UptimeAlert.Webhook

open UptimeAlert.Text

variable [Platform]

inductive Encoding where
  | utf8
  | utf16 (order : ByteOrder)
  | utf32 (order : ByteOrder)
  deriving DecidableEq, Repr

namespace Encoding

/-- The encoding told by a byte order mark, and the bytes after the mark. -/
def ofMark? : List UInt8 → Option (Encoding × List UInt8)
  | 0x00 :: 0x00 :: 0xFE :: 0xFF :: bs => some (.utf32 .big, bs)
  | 0xFF :: 0xFE :: 0x00 :: 0x00 :: bs => some (.utf32 .little, bs)
  | 0xFE :: 0xFF :: bs => some (.utf16 .big, bs)
  | 0xFF :: 0xFE :: bs => some (.utf16 .little, bs)
  | 0xEF :: 0xBB :: 0xBF :: bs => some (.utf8, bs)
  | _ => none

/-- The encoding told by the zero bytes among the first ones: every JSON text begins with an ASCII
character. -/
def ofZeros : List UInt8 → Encoding
  | 0 :: b :: _ :: _ :: _ => if b = 0 then .utf32 .big else .utf16 .big
  | _ :: 0 :: c :: d :: _ => if c = 0 && d = 0 then .utf32 .little else .utf16 .little
  | [0, _] => .utf16 .big
  | [_, 0] => .utf16 .little
  | _ => .utf8

/-- The encoding of a body and the bytes to read in it. -/
def detect (bs : List UInt8) : Encoding × List UInt8 :=
  (ofMark? bs).getD (ofZeros bs, bs)

def decode? (e : Encoding) (bs : List UInt8) : Option (List Char) :=
  match e with
  | .utf8 => (Utf8.decode bs).toOption
  | .utf16 order => decode16? order bs
  | .utf32 order => decode32? order bs

end Encoding

structure Response where
  status : Nat
  body : List UInt8
  deriving DecidableEq, Repr

namespace Response

def isSuccess (r : Response) : Bool :=
  200 ≤ r.status && r.status < 300

def text (r : Response) : String :=
  String.ofList (Utf8.decodeReplacing r.body)

/-- The body as a JSON value, if it is one. No answer is given to a body with a list or a record
that lies too deep. -/
def json? (r : Response) : Except Composite (Option Value) :=
  let (encoding, bytes) := Encoding.detect r.body
  match (encoding.decode? bytes).map (Json.read Platform.nesting) with
  | some (.ok v) => .ok (some v)
  | some (.error (.tooDeep shape)) => .error shape
  | _ => .ok none

/-- The payload of a response: a JSON value, or else the text of the body. -/
def payload (r : Response) : Except Composite Value :=
  r.json?.map fun v => v.getD (.text r.text)

end Response

end UptimeAlert.Webhook
