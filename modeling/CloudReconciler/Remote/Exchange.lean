import CloudReconciler.Fault
import CloudReconciler.Json.Writer

/-! # Exchanges — requests to the remote API and its replies

    `Reply.body?` decides by method and status alone whether a reply is a
    success, a problem or a failed transport. -/

namespace CloudReconciler

/-- An HTTP method; methods are told apart by case. -/
abbrev Method := String

/-- A request, ready to be sent. -/
structure Request where
  method : Method
  url : String
  headers : List (String × String)
  body : Option (List UInt8)
  deriving DecidableEq, Repr

/-- A letter in lower case; other characters stay. -/
def asciiLower (s : String) : String := s.map Char.toLower

/-- The value of the first header of that name in any case. -/
def Request.header? (r : Request) (name : String) : Option String :=
  (r.headers.find? fun (key, _) => asciiLower key == asciiLower name).map Prod.snd

/-- A reply. -/
structure Reply where
  status : UInt16
  body : List UInt8
  deriving DecidableEq, Repr

namespace Reply

/-- A document in compact form with its members in order. -/
def compact (j : Json) : List UInt8 := Utf8.encode j.sorted.write

/-- A reply that carries a document. -/
def ofJson (status : UInt16) (j : Json) : Reply := ⟨status, compact j⟩

/-- The statuses of success. -/
def isSuccess (status : UInt16) : Bool := status == 200 || status == 201 || status == 202 || status == 204

/-- What is asked to be deleted is already gone. -/
def isGone (method : Method) (status : UInt16) : Bool :=
  method == "DELETE" && (status == 404 || status == 405)

/-- The body of a success; otherwise a problem for the statuses 400 to 599 and a failed transport
    for all others. -/
def body? (method : Method) (r : Reply) : Outcome (List UInt8) :=
  if isSuccess r.status || isGone method r.status then .ok r.body
  else if 400 ≤ r.status && r.status < 600 then .error (.problem (.ofBody r.status r.body))
  else .error (.transport ("request failed with status: " ++ toString r.status.toNat))

end Reply

end CloudReconciler
