import WideColumn.Store.Statement

/-!
# Sessions

A session runs statements. What it remembers between them is its state, which is passed along.

* `WideColumn.SessionError`: why there is no answer;
* `WideColumn.Session`: what runs statements;
* `WideColumn.Session.memory`, `WideColumn.Session.scripted`, `WideColumn.Session.failing`: sessions
  without a server, to try things out;
* `WideColumn.Session.recording`: a session that remembers what it was asked.
-/

namespace WideColumn

/-- Why there is no answer, or none that can be used. -/
inductive SessionError where
  /-- There is no session to run the statement. -/
  | notConfigured
  /-- The server refuses. -/
  | execution (reason : String)
  /-- A row has not as many cells as columns were asked for. -/
  | rowShape (expected found : Nat)
  deriving DecidableEq, Repr

/-- The wording of an error. -/
def SessionError.message : SessionError → String
  | .notConfigured => "No session configured"
  | .execution reason => "Statement execution failed: " ++ reason
  | .rowShape expected found => s!"Result row has {found} columns, expected {expected}"

/-- What runs statements, with a state of type `σ`. -/
structure Session (σ : Type) where
  /-- The rows of the answer, and the state afterwards. -/
  execute : Statement → σ → Except SessionError (List Row) × σ

namespace Session

/-! ### Without a server -/

/-- Whether a stored row meets restrictions: it has to contain each of them as it stands. -/
def meets (row restrictions : List BoundColumn) : Bool :=
  restrictions.all fun r => row.contains r

/-- The cells of a stored row for the columns that are asked for; a column that is stored twice has
its first cell, and one that is not stored has none. -/
def pick (row : List BoundColumn) (columns : List String) : Row :=
  ⟨columns.map fun c => (row.find? (·.name == c)).bind (·.cell)⟩

/-- A session that keeps the rows it is given, each as its columns, in the order of arrival. -/
def memory : Session (List (List BoundColumn)) where
  execute
    | .insert _ _ columns, rows => (.ok [], rows ++ [columns])
    | .select _ _ columns restrictions, rows =>
      (.ok ((rows.filter (meets · restrictions)).map (pick · columns)), rows)
    | .delete _ _ restrictions, rows => (.ok [], rows.filter fun row => !meets row restrictions)

/-- A session that gives prepared answers, one after the other, and then empty ones. -/
def scripted : Session (List (List Row)) where
  execute
    | _, [] => (.ok [], [])
    | _, answer :: answers => (.ok answer, answers)

/-- A session that refuses everything. -/
def failing (reason : String) : Session Unit where
  execute _ s := (.error (.execution reason), s)

/-- The same session, which also remembers the statements it was asked to run, in order. -/
def recording {σ : Type} (session : Session σ) : Session (List Statement × σ) where
  execute st s :=
    let (answer, s') := session.execute st s.2
    (answer, s.1 ++ [st], s')

end Session

end WideColumn
