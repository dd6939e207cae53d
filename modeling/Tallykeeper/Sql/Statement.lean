import Tallykeeper.Text.Format

/-!
# SQL statement text

Pieces of SQL text for a relational catalog: a `WHERE` list joins its clauses with
`AND` on new lines, a `SET` list joins its assignments with commas on new lines, and an
index guard creates an index only when the schema does not hold one of that name yet.

A database error code classifies a failure: `42P01` is a missing relation, `23505` a
unique violation; other codes, and failures that carry no code, stay as they are.
-/

namespace Tallykeeper
namespace Sql

/-- A `WHERE` list: the clauses joined by `AND`, each on its own line. -/
def whereClause (clauses : List String) : String :=
  "WHERE\n" ++ "\nAND ".intercalate clauses

/-- A `SET` list: the assignments joined by commas, each on its own line. -/
def setClause (assignments : List String) : String :=
  "SET\n" ++ ",\n".intercalate assignments

/-- The guard that runs `query` only when the schema `schema` has no index `index`; the
query template takes the index name and then the schema name. -/
def guardIndex (schema index query : String) : String :=
  "DO $$\n\t\tBEGIN\n\t\tIF NOT EXISTS (\n\t\t\tSELECT 1 FROM pg_indexes WHERE schemaname = '" ++
    schema ++ "' AND indexname = '" ++ index ++ "'\n\t\t) THEN\n\t\t" ++
    Text.Format.sprintf query [index, schema] ++ ";\n\t\tEND IF;\n\t\tEND$$;"

/-- What a database failure means to the catalog. -/
inductive Failure
  | relationMissing
  | uniqueViolation
  | other (message : String)
  deriving DecidableEq, Repr

/-- The message of a classified failure. -/
def Failure.message : Failure → String
  | .relationMissing => "relation not found"
  | .uniqueViolation => "unique violation"
  | .other m => m

/-- Classifies a failure by its code, if it carries one. A coded failure reads
`pq: <message>` when its code means nothing special. -/
def classify (code : Option String) (message : String) : Failure :=
  match code with
  | some "42P01" => .relationMissing
  | some "23505" => .uniqueViolation
  | some _ => .other ("pq: " ++ message)
  | none => .other message

end Sql
end Tallykeeper
