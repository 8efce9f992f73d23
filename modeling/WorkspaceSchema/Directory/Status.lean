import WorkspaceSchema.Json.Shape.Reader

/-!
# The status of a refused request

A directory that refuses a request says why in the body of its response: a status with a code, a
message and further details, wrapped in an object as its member `error`.
-/

namespace WorkspaceSchema.Directory

/-- One of the details of a status. -/
structure ErrorDetail where
  message : String := ""
  domain : Option String := none
  reason : Option String := none
deriving DecidableEq, Inhabited

/-- Why a directory refuses a request. -/
structure Status where
  code : Int := 0
  message : String := ""
  status : Option String := none
  errors : List ErrorDetail := []
deriving DecidableEq, Inhabited

/-- The shape of a detail. -/
@[reducible] def ErrorDetail.shape : Json.Shape :=
  .record "ErrorDetail"
    (.cons "message" .defaulted .text
    (.cons "domain" .omittable .text
    (.cons "reason" .omittable .text .nil)))

/-- The detail that a value of the shape describes. -/
def ErrorDetail.ofVal : ErrorDetail.shape.Val → ErrorDetail
  | (message, domain, reason, ()) => { message, domain, reason }

/-- Reads a detail. -/
def ErrorDetail.parse (bytes : List UInt8) : Except Json.Error ErrorDetail :=
  (ErrorDetail.shape.parse bytes).map .ofVal

namespace Status

/-- The shape of a status. -/
@[reducible] def shape : Json.Shape :=
  .record "Status"
    (.cons "code" .required .int32
    (.cons "message" .required .text
    (.cons "status" .omittable .text
    (.cons "errors" .defaulted (.list ErrorDetail.shape) .nil))))

/-- The status that a value of the shape describes. -/
def ofVal : shape.Val → Status
  | (code, message, status, errors, ()) =>
    { code, message, status, errors := errors.map ErrorDetail.ofVal }

/-- Reads a status. -/
def parse (bytes : List UInt8) : Except Json.Error Status :=
  (shape.parse bytes).map .ofVal

/-- The shape of the body of a refusal. -/
@[reducible] def payloadShape : Json.Shape :=
  .record "ErrorWrapper" (.cons "error" .required shape .nil)

/-- Reads the status in the body of a refusal. -/
def ofPayload (bytes : List UInt8) : Except Json.Error Status :=
  (payloadShape.parse bytes).map fun wrapped => ofVal wrapped.1

end Status

end WorkspaceSchema.Directory
