/-!
# Shared enumerations

The enumerations of `model.rs` that several subsystems store or compare.
-/

namespace Dopedb

/-- The target database engines. -/
inductive Engine where
  | postgres | mysql | sqlite | mongodb | bigquery
  deriving DecidableEq, Repr

/-- The stored name of an engine. -/
def engineStr : Engine → String
  | .postgres => "postgres"
  | .mysql => "mysql"
  | .sqlite => "sqlite"
  | .mongodb => "mongodb"
  | .bigquery => "bigquery"

/-- Engines are determined by their stored names. -/
theorem engine_str_inj {engine engine' : Engine} (h : engineStr engine = engineStr engine') :
    engine = engine' := by
  cases engine <;> cases engine' <;> first | rfl | exact absurd h (by decide)

/-- What a statement does. -/
inductive QueryKind where
  | read | write | ddl | privilege
  deriving DecidableEq, Repr

/-- The stored name of a query kind. -/
def kindStr : QueryKind → String
  | .read => "read"
  | .write => "write"
  | .ddl => "ddl"
  | .privilege => "privilege"

/-- Query kinds are determined by their stored names. -/
theorem kind_str_inj {kind kind' : QueryKind} (h : kindStr kind = kindStr kind') :
    kind = kind' := by
  cases kind <;> cases kind' <;> first | rfl | exact absurd h (by decide)

/-- Why a statement of a script has no result: `kind` is a closed script state or the kind of the
error. -/
structure ScriptStatementError where
  kind : String
  message : String
  deriving DecidableEq, Repr

/-- The outcome of one statement of a script. The rows of a read are left out. -/
structure ScriptStatement where
  sql : String
  affected : Option Nat
  error : Option ScriptStatementError
  deriving DecidableEq, Repr

end Dopedb
