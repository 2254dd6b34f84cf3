import GroupOperator.Value

/-!
# Failures

Everything that can go wrong while the operator works, by cause.  A failed call against the cluster
keeps the failure that caused it, whatever that was, with the object and the operation it was about.
-/

namespace GroupOperator

/-- A failure, by its cause. -/
inductive Failure where
  /-- The cluster's API refused a call, with a status, a reason and perhaps a response body. -/
  | refused (status reason body : Value)
  /-- The API could not be reached, however often it was tried. -/
  | unreachable (url reason : Value)
  /-- The transport below the API failed in some other way. -/
  | transport (message : String)
  /-- The credentials at hand are of no use. -/
  | credentials (message : String)
  /-- The operating system failed a request. -/
  | system (message : String)
  /-- Something ended that should have gone on. -/
  | interrupted (message : String)
  /-- A value of the right type that means nothing. -/
  | badValue (message : String)
  /-- A value of the wrong type. -/
  | badType (message : String)
  /-- A number beyond what can be represented. -/
  | overflow (message : String)
  /-- A setting or a collaborator is missing or invalid. -/
  | configuration (message : String)
  /-- What was delivered is no service group. -/
  | unknownObject (message : String)
  /-- A service group is malformed in the field `key`. -/
  | invalid (key detail : Value)
  /-- A call against the cluster failed.  The status is the API's, if the API gave one. -/
  | call (operation name namespaceName : Value) (cause : Failure) (status : Value)
  deriving DecidableEq, Repr, Inhabited

namespace Failure

/-- The text of a failure. -/
def message : Failure → String
  | .refused status reason body =>
    "(" ++ status.text ++ ")\nReason: " ++ reason.text ++ "\n" ++
      (if body.isPresent then "HTTP response body: " ++ body.text ++ "\n" else "")
  | .unreachable url reason =>
    "None: Max retries exceeded with url: " ++ url.text ++ " (Caused by " ++ reason.quoted ++ ")"
  | .transport m | .credentials m | .system m | .interrupted m | .badValue m | .badType m
  | .overflow m | .configuration m | .unknownObject m => m
  | .invalid key detail => key.text ++ ": " ++ detail.text
  | .call operation name namespaceName cause _ =>
    operation.text ++ " " ++ name.quoted ++ " in namespace " ++ namespaceName.quoted ++
      " failed: " ++ cause.message

/-- Whether a failure came up from the transport that carries the API's calls. -/
def isTransport : Failure → Bool
  | .unreachable .. | .transport _ => true
  | _ => false

/-- Whether a failed call was a create of an object that exists. -/
def isConflict : Failure → Bool
  | .call _ _ _ _ status => status.equals (.int 409)
  | _ => false

/-- Whether a failed call was about an object that does not exist. -/
def isMissing : Failure → Bool
  | .call _ _ _ _ status => status.equals (.int 404)
  | _ => false

/-! ## Comparing with zero -/

/-- The failure to compare by `sign` a value that counts as no number with a whole number. -/
def incomparable (sign : String) (v : Value) : Failure :=
  .badType ("\x27" ++ sign ++ "\x27 not supported between instances of \x27" ++ v.typeName ++
    "\x27 and \x27int\x27")

end Failure

end GroupOperator
