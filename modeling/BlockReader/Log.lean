import BlockReader.Text.Basic
set_option autoImplicit false

namespace BlockReader

/-- How much a record matters; `all` is no record's level but lets every record through. -/
inductive Level where
  | all
  | debug
  | info
  | warning
  | error
  | critical
  deriving DecidableEq

namespace Level

def name : Level → String
  | .all => "NOTSET"
  | .debug => "DEBUG"
  | .info => "INFO"
  | .warning => "WARNING"
  | .error => "ERROR"
  | .critical => "CRITICAL"

/-- The level of a name; two levels have a second one. -/
def ofName? : String → Option Level
  | "NOTSET" => some .all
  | "DEBUG" => some .debug
  | "INFO" => some .info
  | "WARNING" => some .warning
  | "WARN" => some .warning
  | "ERROR" => some .error
  | "CRITICAL" => some .critical
  | "FATAL" => some .critical
  | _ => none

@[simp] theorem ofName?_name (level : Level) : ofName? level.name = some level := by
  cases level <;> rfl

def rank : Level → Nat
  | .all => 0
  | .debug => 1
  | .info => 2
  | .warning => 3
  | .error => 4
  | .critical => 5

def passes (threshold level : Level) : Bool :=
  decide (threshold.rank ≤ level.rank)

end Level

inductive Source where
  | client
  | scanner
  | api
  deriving DecidableEq

structure Record where
  level : Level
  source : Source
  message : Text
  deriving DecidableEq

end BlockReader
