import ProofLedger.Digest.Canonical
import ProofLedger.Store.Read

/-!
# Digests of files

The digest of a document in a file does not depend on the layout of the
file: the text is read, line ends being line feeds, and the digest is that
of the document in it. As for canonical texts, that a document may be
nested too deeply for the machinery underneath is left out.
-/

namespace ProofLedger

/-- The digest of the document in a file. -/
def digestOfFile (content : Bytes) : Except Failure Text := do
  let t ← Directory.readText content
  let digest ← (documentDigest t).mapError .ofReadFault
  digest.mapError fun points => .fault (.unencodable points)

end ProofLedger
