import Preflight.Connector

/-!
# The check of an Amundsen catalog

Amundsen keeps its metadata in a graph. Its one step reads user records, which
takes a working session and the right to read the `User` nodes. The step is
written for anything that answers a statement with a number of rows.
-/

namespace Preflight

namespace Amundsen

/-- The service that reports name. -/
def service : String := "Amundsen"

/-- The name of the only step. -/
def checkAccess : String := "CheckAccess"

/-- User records, as the extraction of metadata reads them. -/
def userQuery : String :=
  "MATCH (user:User)\n" ++
  "OPTIONAL MATCH (user)-[:MANAGE_BY]->(manager)\n" ++
  "WITH user, manager\n" ++
  "ORDER BY user.email\n" ++
  "RETURN user.email AS email, user.first_name AS first_name, user.last_name AS last_name,\n" ++
  "       user.full_name AS full_name, user.github_username AS github_username,\n" ++
  "       user.team_name AS team_name, user.employee_type AS employee_type,\n" ++
  "       manager.email AS manager_email, user.slack_id AS slack_id,\n" ++
  "       user.role_name AS role_name, user.is_active AS is_active\n" ++
  "LIMIT 1"

/-- The steps, for a connection that answers statements. -/
def steps {σ : Type} (read : String → Act σ (Except StepFailure Nat)) : List (Step σ) :=
  [{ name := checkAccess
     probe := do
       let answer ← read userQuery
       return ⟨0, answer.map fun _ => ()⟩ }]

end Amundsen

end Preflight
