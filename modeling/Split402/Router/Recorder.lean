import Split402.Receipts.Ingestion
import Split402.Router.Execution

/-! # The recorder of receipts

`Split402ControlPlaneReceiptRecorder`: the router posts a receipt to the control plane and reads what
it is answered, which is untyped JSON. -/

namespace Split402

/-- An answer over HTTP: its status, its text, and what `JSON.parse` reads in the text (`none` when
it throws). -/
structure HttpAnswer where
  status : Nat
  text : String
  json : Option Json

/-! ## What the control plane answers -/

/-- `result.statusCode`. -/
def ReceiptIngestResult.statusCode : ReceiptIngestResult → Nat
  | .created _ => 201
  | .duplicate _ => 200
  | .conflict _ _ _ => 409
  | .rejected _ => 400

def ConflictField.text : ConflictField → String
  | .receiptId => "receiptId"
  | .paymentId => "paymentId"
  | .settlementTxSignature => "settlementTxSignature"

/-- The result as an object. The records of a snapshot, which the recorder does not read, are left
out of it. -/
def ReceiptIngestResult.toJson (result : ReceiptIngestResult) : Json :=
  match result with
  | .created _ => .obj [("status", .str "created"), ("statusCode", .num 201)]
  | .duplicate _ => .obj [("status", .str "duplicate"), ("statusCode", .num 200)]
  | .conflict conflictField existingReceiptId receiptHash =>
      .obj [("status", .str "conflict"), ("statusCode", .num 409),
        ("conflictField", .str conflictField.text), ("existingReceiptId", .str existingReceiptId),
        ("receiptHash", .str receiptHash)]
  | .rejected errors =>
      .obj [("status", .str "rejected"), ("statusCode", .num 400),
        ("errors", .arr (errors.map Json.str))]

/-- What `jsonErrorHandler` answers. -/
def jsonErrorBody (message : String) : Json :=
  .obj [("status", .str "rejected"), ("errors", .arr [.str message])]

/-- `POST /v1/receipts` is answered with the result of the ingestion. An error that it throws goes to
`jsonErrorHandler`, and from there to the framework, whose answer is a page. -/
def HttpAnswer.OfIngest (answer : HttpAnswer) : Except PayoutError ReceiptIngestResult → Prop
  | .ok result => answer.status = result.statusCode ∧ answer.json = some result.toJson
  | .error _ => 400 ≤ answer.status ∧
      (answer.json = none ∨ ∃ message, answer.json = some (jsonErrorBody message))

/-! ## The recorder -/

/-- A property of a parsed value, whose names are unique; an array has none of these. -/
def Json.property? (value : Json) (name : String) : Option Json :=
  match value with
  | .obj fields => fields.lookup name
  | _ => none

/-- `value === text`. -/
def Json.isString (value : Option Json) (text : String) : Bool :=
  match value with
  | some (.str s) => s == text
  | _ => false

/-- `body.trim()`. -/
def trim (body : String) : String :=
  String.ofList ((body.toList.dropWhile isJsWhitespace).reverse.dropWhile isJsWhitespace).reverse

def formatReceiptRecorderErrorBody (body : String) : String :=
  let trimmed := trim body
  if trimmed = "" then "" else ": " ++ trimmed

def readReceiptRecorderResponseStatus (body : Option Json) : Option ReceiptRecordingStatus :=
  let status := body.bind (Json.property? · "status")
  if Json.isString status "created" then some .created
  else if Json.isString status "duplicate" then some .duplicate
  else none

def isDuplicateReceiptIdConflict (body : Option Json) (receiptId : String) : Bool :=
  let property name := body.bind (Json.property? · name)
  Json.isString (property "status") "conflict" && Json.isString (property "conflictField") "receiptId" &&
    Json.isString (property "existingReceiptId") receiptId

structure Split402ControlPlaneReceiptRecorder where
  source : ReceiptIngestSource

/-- The recorder without a `source` among its options. -/
def Split402ControlPlaneReceiptRecorder.default : Split402ControlPlaneReceiptRecorder := ⟨.buyer⟩

/-- What is done with what the request is answered; a request may throw. -/
def Split402ControlPlaneReceiptRecorder.record (recorder : Split402ControlPlaneReceiptRecorder)
    (receipt : Split402ReceiptV1) (response : Except String HttpAnswer) :
    Except String Split402ReceiptRecordingResult := do
  let response ← response
  if response.status < 200 ∨ response.status ≥ 300 then
    if response.status = 409 ∧ isDuplicateReceiptIdConflict response.json receipt.receiptId then
      pure ⟨.duplicate, recorder.source⟩
    else
      throw (s!"control-plane receipt ingestion failed with HTTP {response.status}" ++
        formatReceiptRecorderErrorBody response.text)
  else
    match readReceiptRecorderResponseStatus response.json with
    | some status => pure ⟨status, recorder.source⟩
    | none =>
        throw ("control-plane receipt ingestion returned unexpected status" ++
          formatReceiptRecorderErrorBody response.text)

end Split402
