import ProofLedger.Json.Reader
import ProofLedger.Text.Utf8

/-!
# The encoding of a document's octets

A document is UTF-8, UTF-16 or UTF-32. A byte order mark tells which;
without one the zero octets among the first four do, because a document
starts with two ASCII characters. Encoded surrogates pass.
-/

namespace ProofLedger.Json

/-- An encoding that a document may have. -/
inductive Encoding where
  | eight
  | sixteen (order : Text.Wide.Order)
  | thirtyTwo (order : Text.Wide.Order)
  deriving DecidableEq, Repr

/-- The encoding of the octets, and the octets without their mark. -/
def Encoding.detect (bytes : Bytes) : Encoding × Bytes :=
  match bytes with
  | 0x00 :: 0x00 :: 0xFE :: 0xFF :: r => (.thirtyTwo .big, r)
  | 0xFF :: 0xFE :: 0x00 :: 0x00 :: r => (.thirtyTwo .little, r)
  | 0xFE :: 0xFF :: r => (.sixteen .big, r)
  | 0xFF :: 0xFE :: r => (.sixteen .little, r)
  | 0xEF :: 0xBB :: 0xBF :: r => (.eight, r)
  | a :: b :: c :: d :: _ =>
    if a = 0 then (if b = 0 then .thirtyTwo .big else .sixteen .big, bytes)
    else if b = 0 then
      (if c = 0 ∧ d = 0 then .thirtyTwo .little else .sixteen .little, bytes)
    else (.eight, bytes)
  | [a, b] =>
    if a = 0 then (.sixteen .big, bytes)
    else if b = 0 then (.sixteen .little, bytes)
    else (.eight, bytes)
  | bytes => (.eight, bytes)

/-- Octets as text in an encoding. -/
def Encoding.decode? (e : Encoding) (bytes : Bytes) : Option Text :=
  match e with
  | .eight => (Text.Utf8.decode true bytes).toOption
  | .sixteen order => Text.Wide.decode16 order bytes
  | .thirtyTwo order => Text.Wide.decode32 order bytes

/-- Why octets are no document. -/
inductive BytesFault where
  | undecodable
  | read (fault : ReadFault)
  deriving DecidableEq, Repr

/-- A document from octets in any of its encodings. -/
def readBytes (bytes : Bytes) (room : Room := none) : Except BytesFault Json :=
  let (encoding, body) := Encoding.detect bytes
  match encoding.decode? body with
  | none => .error .undecodable
  | some t => (readWhole t room).mapError .read

end ProofLedger.Json
