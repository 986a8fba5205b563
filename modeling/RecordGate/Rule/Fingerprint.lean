import RecordGate.Digest.Sha256
import RecordGate.Rule.Basic

/-!
# Fingerprints

The fingerprint of a list of rules identifies their revisions, whatever their order: it is the hash of
one sorted line for each rule.
-/

namespace RecordGate

namespace Rule

/-- The line of a rule: its id, version, time and activity with unit separators between. -/
def revisionLine (r : Rule) : String :=
  let separator := "\x1f"
  r.id ++ separator ++ toString r.version ++ separator ++ r.updatedAt ++ separator ++
    (if r.active then "true" else "false")

end Rule

/-- The bytes that are hashed: the lines in ascending order, each ended. -/
def fingerprintInput (rules : List Rule) : Bytes :=
  ((rules.map Rule.revisionLine).mergeSort fun a b => a ≤ b).flatMap fun line => Text.encode line ++ [0x0A]

/-- The fingerprint of a list of rules. -/
def fingerprint (rules : List Rule) : String := Sha256.hex (fingerprintInput rules)

end RecordGate
