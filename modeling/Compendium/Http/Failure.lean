import Compendium.Statement.PageQuery

/-!
# Compendium — failures

What goes wrong as a client sees it. A client's own mistakes are told in full; of everything else it
learns only that it happened, and the cause stays inside.
-/

namespace Compendium

inductive Failure where
  /-- Every mistake found in the request. -/
  | badRequest (errors : List String)
  | database (message : String) (cause : DbError)
  | internal (message : String) (detail : Option String)
deriving DecidableEq, Repr

namespace Failure

def ofParamErrors (errors : List ParamError) : Failure :=
  badRequest (errors.map ParamError.message)

def ofDbError (cause : DbError) : Failure := database "A database error occurred" cause

/-- A lookup that could not be loaded is the database's failure, one that is not there our own. -/
def ofQueryFailure : QueryFailure → Failure
  | .invalidRequest errors => ofParamErrors errors
  | .lookup (.load _ cause) => ofDbError cause
  | e => internal "Failed to build query" (some e.message)

def status : Failure → Nat
  | badRequest _ => 400
  | database _ _ => 500
  | internal _ _ => 500

/-- What the client is told. -/
def publicMessage : Failure → String
  | badRequest errors => "; ".intercalate errors
  | database message _ => message
  | internal message _ => message

/-- The mistakes one by one, for those who made them. -/
def details : Failure → Option (List String)
  | badRequest errors => some errors
  | database _ _ => none
  | internal _ _ => none

end Failure

end Compendium
