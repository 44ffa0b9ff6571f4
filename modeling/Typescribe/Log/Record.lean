/-!
This module contains the records of the log.
-/

namespace Typescribe.Log

inductive Level where
  | debug
  | info
  | warning
  | error
  | critical
deriving DecidableEq, Repr

def Level.number : Level → Nat
  | debug => 10
  | info => 20
  | warning => 30
  | error => 40
  | critical => 50

def Level.name : Level → String
  | debug => "DEBUG"
  | info => "INFO"
  | warning => "WARNING"
  | error => "ERROR"
  | critical => "CRITICAL"

/-- The part of the program that writes a record. -/
inductive Origin where
  | command
  | snapshot
  | choices
  | restClient
  | introspection
  | members
  | generation
deriving DecidableEq, Repr

def Origin.name : Origin → String
  | command => "directus_typegen.main"
  | snapshot => "directus_typegen.schema.snapshot"
  | choices => "directus_typegen.services.choices"
  | restClient => "directus_typegen.services.directus_api"
  | introspection => "directus_typegen.services.introspection"
  | members => "directus_typegen.generators.ts_gen.render_model"
  | generation => "directus_typegen.generators.ts_gen.generator"

/-- A record of the log; a dash stands for a context that is absent. -/
structure Record where
  level : Level
  origin : Origin
  message : String
  collection : String := "-"
  field : String := "-"
deriving DecidableEq, Repr

end Typescribe.Log
