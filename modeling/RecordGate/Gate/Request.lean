import RecordGate.File.Rows
import RecordGate.RecordType
import RecordGate.Text.Utf8

/-!
# Requests

A request names a file that is handed in. Before a row of it is looked at, its record type and its format
must be known and it must be there; a file is rejected for the first of these that fails.

Main definitions: `Request`, `Request.admission`.
-/

namespace RecordGate

/-- A file that is handed in, by its source. -/
structure Request where
  source : String
  /-- The record type as declared; without one the source tells it. -/
  declared : Option RecordType
  contentType : Option String
deriving DecidableEq

/-- Why a file could not be opened. -/
structure OpenError where
  path : String
  reason : String
deriving DecidableEq

/-- Why a file is rejected as a whole. -/
inductive Rejection where
  | unknownType (source : String)
  | unsupportedFormat (name : String)
  | unopened (e : OpenError)
deriving DecidableEq

def Rejection.message : Rejection → String
  | .unknownType source => s!"unknown record type: {source}"
  | .unsupportedFormat name => s!"unsupported format: {name}"
  | .unopened e => s!"cannot open {e.path}: {e.reason}"

/-- A file that may be processed. -/
structure Admitted where
  recordType : RecordType
  format : Format
  content : Bytes
deriving DecidableEq

namespace Request

def recordType? (r : Request) : Option RecordType := r.declared.or (RecordType.ofSource? r.source)

/-- Admits a file, or rejects it; what is known of its record type is kept. -/
def admission (r : Request) (content : Except OpenError Bytes) : Except (Option RecordType × Rejection) Admitted :=
  match r.recordType? with
  | none => .error (none, .unknownType r.source)
  | some t =>
    match Format.detect? r.source r.contentType with
    | none => .error (some t, .unsupportedFormat (Format.unsupportedName r.source r.contentType))
    | some format =>
      match content with
      | .error e => .error (some t, .unopened e)
      | .ok bytes => .ok ⟨t, format, bytes⟩

end Request

end RecordGate
