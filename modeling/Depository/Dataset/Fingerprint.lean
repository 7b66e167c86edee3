import Depository.Dataset.Version
import Depository.Digest.Base64
import Depository.Digest.Sha256

/-!
# Fingerprints

The fingerprint of a version summarises those of its tabular files. It does not depend on the
order of the records or of the files.
-/

namespace Depository

/-- The fingerprints of the files that the records of a version refer to, one for each record
whose file is known and has one. -/
def Version.fileFingerprints (files : List DataFile) (v : Version) : List String :=
  (v.fileMetadata.filterMap fun fm => files.find? fun f => f.id == fm.dataFile).filterMap (·.unf)

/-- The bytes of which the digest is taken: the texts in order, each closed by a zero. -/
def fingerprintBytes (texts : List String) : List UInt8 :=
  (texts.mergeSort fun a b => a ≤ b).flatMap fun s => s.toUTF8.toList ++ [0]

/-- The fingerprint of a version, if one of its files has one. -/
def Version.fingerprint? (files : List DataFile) (v : Version) : Option String :=
  match v.fileFingerprints files with
  | [] => none
  | texts => some ("UNF:6:" ++ Digest.base64 (Digest.sha256 (fingerprintBytes texts)))

end Depository
