/-
ClusterBackup.Http.Message — requests and answers as bytes.

A message is a head, an empty line and a body. The head is a start line
and fields, one to a line, and lines end in a carriage return and a line
feed. The body has as many bytes as a field says, or comes in chunks that
each say their size, or is all that follows. Readers give nothing for a
message that is not complete yet.
-/
import ClusterBackup.Http.Exchange
import ClusterBackup.Http.MediaType
import ClusterBackup.Http.SocketAddress

namespace ClusterBackup.Http

/-! ## Heads -/

/-- The first lines of a message. -/
structure Head where
  /-- The words of the first line. -/
  start : List String
  /-- Names in lower case, with values. -/
  fields : List (String × String)
deriving DecidableEq, Repr

namespace Head

/-- The bytes before and after the first empty line. -/
def cut? : List UInt8 → Option (List UInt8 × List UInt8)
  | 13 :: 10 :: 13 :: 10 :: rest => some ([], rest)
  | b :: rest => (cut? rest).map fun p => (b :: p.1, p.2)
  | [] => none

/-- Characters without the blanks at their ends. -/
def trimmed (cs : List Char) : String :=
  let isBlank (c : Char) : Bool := c == ' ' || c == '\t' || c == '\r'
  String.ofList ((cs.dropWhile isBlank).reverse.dropWhile isBlank).reverse

/-- The field that a line holds. -/
def readField (line : List Char) : String × String :=
  let (name, value) := Text.cut ':' line
  (trimmed (name.map Char.toLower), trimmed value)

/-- The head that bytes write. -/
def ofBytes (bs : List UInt8) : Head :=
  match Text.splitWhere (· == '\n') (Text.Utf8.decodeLossy bs) with
  | [] => ⟨[], []⟩
  | first :: lines =>
    ⟨(Text.splitWhere (· == ' ') first).map trimmed, lines.map readField⟩

/-- The value of a field. -/
def field? (h : Head) (name : String) : Option String := h.fields.lookup name

end Head

/-! ## Bodies -/

/-- Where a body ends. -/
inductive Framing where
  | sized (size : Nat)
  | chunked
  /-- At the end of the connection. -/
  | unbounded
deriving DecidableEq, Repr

/-- Where the body after a head ends, or what holds if no field says. -/
def Head.framing (h : Head) (otherwise : Framing) : Framing :=
  if (h.field? "transfer-encoding").any fun s => MediaType.lower s == "chunked" then .chunked
  else
    match (h.field? "content-length").bind fun s => SocketAddress.decimal? UInt64.size s.toList with
    | some size => .sized size
    | none => otherwise

/-- The number that hexadecimal digits at the front of bytes write. -/
def chunkSize (bs : List UInt8) : Nat :=
  ((bs.map fun b => Text.hexValue? (Char.ofUInt8 b)).takeWhile (·.isSome)).foldl
    (fun n d => n * 16 + d.getD 0) 0

/-- The bytes in chunks, up to the empty one. -/
def chunks? (bs : List UInt8) : Option (List UInt8) :=
  match _h : bs.dropWhile (· != 10) with
  | [] => none
  | _ :: rest =>
    let size := chunkSize bs
    if size = 0 then some []
    else if rest.length < size + 2 then none
    else (chunks? (rest.drop (size + 2))).map (rest.take size ++ ·)
termination_by bs.length
decreasing_by
  have shorter := (List.dropWhile_suffix (· != 10) (l := bs)).length_le
  rw [_h] at shorter
  simp only [List.length_cons, List.length_drop] at shorter ⊢
  omega

/-- The body at the front of bytes, which are all there is if the connection ended. -/
def Framing.body? (ended : Bool) (bs : List UInt8) : Framing → Option (List UInt8)
  | sized size => if bs.length < size then none else some (bs.take size)
  | chunked => chunks? bs
  | unbounded => if ended then some bs else none

/-! ## Messages -/

/-- A line as bytes. -/
def lineBytes (line : String) : List UInt8 := Text.Utf8.encode line.toList ++ [13, 10]

/-- The bytes of a head with fields, and of the empty line after it. -/
def headBytes (start : String) (fields : List (String × String)) : List UInt8 :=
  lineBytes start ++ fields.flatMap (fun f => lineBytes (f.1 ++ ": " ++ f.2)) ++ lineBytes ""

/-- The version that is spoken. -/
def protocol : String := "HTTP/1.1"

/-- The end of the connection follows the message. -/
def closing : String × String := ("connection", "close")

/-- The bytes that ask for a URL. -/
def requestBytes (u : Url) : List UInt8 :=
  let port := match u.port with
    | some n => ":" ++ toString n
    | none => ""
  headBytes (requestLine u ++ " " ++ protocol)
    [("host", u.host ++ port), ("accept", "*/*"), closing]

/-- The answer that bytes write. -/
def Response.ofBytes? (ended : Bool) (bs : List UInt8) : Option Response := do
  let (head, rest) ← Head.cut? bs
  let head := Head.ofBytes head
  let status ← (head.start[1]?).bind fun s => SocketAddress.decimal? 1000 s.toList
  let otherwise := if status = 204 ∨ status = 304 then Framing.sized 0 else .unbounded
  return ⟨status, ← (head.framing otherwise).body? ended rest⟩

end ClusterBackup.Http
