import SearchTables.Http.Inflate
import SearchTables.Text.Blank
import SearchTables.Text.Case
import SearchTables.Text.Cut

/-! # Content codings

A body may arrive in a coded form, or in several, one applied after the other; the header lists them in that
order. Codings that the client does not know are ignored. -/

namespace SearchTables.Http

/-- A coding that the client knows. -/
inductive ContentCoding where
  | identity
  | gzip
  | deflate
deriving DecidableEq, Repr

namespace ContentCoding

/-- The coding of a name. -/
def ofName? (name : String) : Option ContentCoding :=
  if name = "identity" then some .identity
  else if name = "gzip" then some .gzip
  else if name = "deflate" then some .deflate
  else none

/-- The bytes that coded bytes stand for. Deflated bytes come with a header and a checksum or, when they cannot
be read so, without. What a text is sent as never starts with the mark of `gzip`, so bytes in that coding are
at fault as soon as there are two of them. -/
def decode : ContentCoding → List Nat → Except InflateFault (List Nat)
  | .identity, bytes => .ok bytes
  | .gzip, bytes => if bytes.length < 2 then .ok [] else .error .badHeader
  | .deflate, bytes =>
      match unwrapInflate bytes with
      | .ok written => .ok written
      | .error _ => (inflate bytes).map (·.1)

/-- The codings that a header lists. -/
def listed (header : String) : List ContentCoding :=
  (Text.cutAt ',' header.toList).filterMap fun name =>
    ofName? (Text.lowerAscii (Text.trim (String.ofList name)))

/-- The bytes of a body with this header: the last coding is undone first. -/
def decodeBody (header : Option String) (bytes : List Nat) : Except InflateFault (List Nat) :=
  ((header.map listed).getD []).foldr (fun coding bytes => do coding.decode (← bytes)) (.ok bytes)

end ContentCoding

end SearchTables.Http
