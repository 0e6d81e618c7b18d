/-!
# The exceptions the modelled code raises

One type for the built-in and `sqlite3` exceptions, each with its message. The repository's own
exception classes are modelled beside the component that raises them.
-/

namespace Athena

inductive PyException
  | runtimeError (message : String)
  | valueError (message : String)
  | overflowError (message : String)
  | osError (message : String)
  /-- `sqlite3.IntegrityError`: a constraint of the schema failed. -/
  | integrityError (message : String)
  /-- `sqlite3.OperationalError`: the database could not do what it was asked to. -/
  | operationalError (message : String)
  deriving DecidableEq, Repr

end Athena
