import ContractVerifier.Compression.Stream
import ContractVerifier.Explorer.Exchange

set_option autoImplicit false

/-! # Content codings

The body of a response may be coded, several times over. The codings are named in a header in
the order in which they were applied; those that are not known are passed over.

Main definition: `ExplorerResponse.decoded`.
-/

namespace ContractVerifier

/-- The codings that are known. -/
inductive ContentCoding where
  | gzip
  | deflate
  deriving DecidableEq, Repr

namespace ContentCoding

/-- The spelling of a coding. -/
def text : ContentCoding → String
  | gzip => "gzip"
  | deflate => "deflate"

/-- The coding with a name, if it is known. -/
def ofText? (t : Text) : Option ContentCoding :=
  [gzip, deflate].find? fun c => Text.lowerLatin (Text.strip t) = c.text.toList

/-- The bytes that were coded. Deflated data may come with a header and without. -/
def decode : ContentCoding → List UInt8 → Except Compression.Flaw (List UInt8)
  | gzip, bytes => Compression.gunzip bytes
  | deflate, bytes =>
    match Compression.uncompress bytes with
    | .ok data => .ok data
    | .error _ => (Compression.inflate bytes).map (·.1)

end ContentCoding

namespace ExplorerResponse

/-- The codings of the body. -/
def codings (r : ExplorerResponse) : List ContentCoding :=
  ((r.headerValues "content-encoding").flatMap (Text.split ',')).filterMap ContentCoding.ofText?

/-- The response with its body as it was before it was coded. The last coding is undone first. -/
def decoded (r : ExplorerResponse) : Except Compression.Flaw ExplorerResponse := do
  let body ← r.codings.reverse.foldlM (fun body coding => coding.decode body) r.body
  return { r with body }

end ExplorerResponse

end ContractVerifier
