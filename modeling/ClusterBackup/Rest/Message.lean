/-
ClusterBackup.Rest.Message — requests to the service and its replies as bytes.

A request without a size has no body. A body that is no text is read as an
empty one, which no route accepts. Every reply says its size, and the
connection ends with it.
-/
import ClusterBackup.Http.Message
import ClusterBackup.Rest

namespace ClusterBackup.Rest

/-- The request that bytes write; none as long as it is not complete. -/
def Request.ofBytes? (bs : List UInt8) : Option Request := do
  let (head, rest) ← Http.Head.cut? bs
  let head := Http.Head.ofBytes head
  let body ← (head.framing (.sized 0)).body? false rest
  return {
    method := head.start[0]?.getD ""
    target := head.start[1]?.getD ""
    contentType := head.field? "content-type"
    body := String.ofList ((Text.Utf8.decode? body).getD []) }

/-- The bytes of a reply. -/
def Reply.toBytes (r : Reply) : List UInt8 :=
  let body := Text.Utf8.encode r.body.toList
  let type := match r.contentType with
    | some t => [("content-type", t)]
    | none => []
  Http.headBytes (Http.protocol ++ " " ++ Http.statusText r.status)
    (type ++ [("content-length", toString body.length), Http.closing]) ++ body

end ClusterBackup.Rest
