import EngineExtension.Bare.Basic
import EngineExtension.Load

/-!
# The entry point of the bare extension

A host loads the bare extension by one call, which makes the request below and answers whether it
was granted.
-/

namespace EngineExtension.Bare

/-- The request that the entry point makes. -/
def request (host : Option Host) (token : Int) (record : Option InitRecord) : Request where
  host
  token
  record
  initializer := some start
  terminator := some stop
  minimum := level
  config := (({} : Config).withName name).withLogger {}

/-- What the entry point answers the host. -/
def status (result : Except LoadError Library) : Nat := wireFlag result.isOk

end EngineExtension.Bare
