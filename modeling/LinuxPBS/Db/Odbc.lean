import Mathlib.Data.Int.Notation
import Mathlib.Data.List.Nodup
import Mathlib.Data.List.Perm.Basic

/-!
# What the program sees of a database

`odbc.cpp` catches every exception of the driver, so a caller sees of an SQL call
only its return code.  What the database does is not decided by the program: the
outcome of every call is an input of the model, a `SqlOutcome`, and every theorem
about a function that makes SQL calls holds for all outcomes.

A column holds the text that was written to it, or NULL.  What a column type
makes of that text (the two decimals of a `DECIMAL(10,2)`, the collation of a
`VARCHAR`) is again an input, a `ColumnTypes`.

The tables of the local database carry the rows in the order of their insertion
together with their `AUTO_INCREMENT` key, so two rows with the same contents are
still two rows.
-/

namespace LinuxPBS.Db

/-! ## Values -/

/-- The contents of a column. -/
inductive SqlValue
  | null
  | text (value : String)
  deriving DecidableEq, Repr

/-- The three ways the program writes a value into an `INSERT`. -/
inductive SqlLiteral
  /-- `'value'` -/
  | quoted (value : String)
  /-- `value`, with no quotes -/
  | bare (value : String)
  /-- `convert(datetime, 'value', 120)` -/
  | datetime (value : String)
  deriving DecidableEq, Repr

/-- The text a literal writes. -/
def SqlLiteral.value : SqlLiteral → String
  | .quoted value => value
  | .bare value => value
  | .datetime value => value

variable {κ : Type*}

/-- The column list and the value list of an `INSERT`. -/
abbrev Insert (κ : Type*) := List (κ × SqlLiteral)

/-- The row an `INSERT` makes; a column it does not name is left NULL. -/
def insertedRow [DecidableEq κ] (columns : Insert κ) (column : κ) : SqlValue :=
  match columns.lookup column with
  | some literal => .text literal.value
  | none => .null

/-- How a database treats the texts written to its columns. -/
structure ColumnTypes (κ : Type*) where
  /-- What `SELECT` gives back for a column in which `stored` was written. -/
  print : κ → String → String
  /-- Whether `column = 'text'` is true where `stored` was written. -/
  equal : κ → (stored text : String) → Bool

/-- `ReaderItem::GetDataItem` of a selected column: `getColumnText` turns NULL into
the text `NULL`. -/
def ColumnTypes.getDataItem (types : ColumnTypes κ) (row : κ → SqlValue) (column : κ) : String :=
  match row column with
  | .null => "NULL"
  | .text stored => types.print column stored

/-- The condition `column = 'text'` of a `WHERE`, which is never true of NULL. -/
def ColumnTypes.isEqual (types : ColumnTypes κ) (row : κ → SqlValue) (column : κ)
    (text : String) : Bool :=
  match row column with
  | .null => false
  | .text stored => types.equal column stored text

/-! ## Calls -/

/-- What `SQLExecutNoneQuery` does with a statement. -/
inductive SqlOutcome
  /-- the statement is executed and `0` is returned -/
  | done
  /-- the statement is executed, but `SQLRowCount` fails or throws: `-1` -/
  | unreported
  /-- no connection, or the statement is refused: `-1` -/
  | failed
  deriving DecidableEq, Repr

namespace SqlOutcome

/-- The return code of `SQLExecutNoneQuery`. -/
def code : SqlOutcome → ℤ
  | .done => 0
  | _ => -1

/-- The statement has reached the database. -/
def Executed (outcome : SqlOutcome) : Prop := outcome ≠ .failed

instance (outcome : SqlOutcome) : Decidable outcome.Executed := inferInstanceAs (Decidable (_ ≠ _))

/-- Apply a statement to the table it is about. -/
def apply {σ : Type*} (outcome : SqlOutcome) (statement : σ → σ) (table : σ) : σ :=
  if outcome.Executed then statement table else table

@[simp] theorem code_eq_zero_iff {outcome : SqlOutcome} : outcome.code = 0 ↔ outcome = .done := by
  cases outcome <;> simp [code]

@[simp] theorem executed_done : Executed .done := by decide

end SqlOutcome

/-- What one database connection answers while a transaction is saved. -/
structure ConnectionAnswers where
  /-- the attribute `SQL_ATTR_CONNECTION_DEAD` is readable and false -/
  alive : Bool
  /-- `Connect` succeeds after `Disconnect` -/
  connects : Bool
  insert : SqlOutcome
  deriving DecidableEq, Repr

namespace ConnectionAnswers

/-- `IsConnected` -/
def isConnected (answers : ConnectionAnswers) : ℤ := if answers.alive then 1 else 0

/-- `Connect` -/
def connect (answers : ConnectionAnswers) : ℤ := if answers.connects then 0 else -1

end ConnectionAnswers

/-! ## The local tables -/

/-- A row of a local table with its `AUTO_INCREMENT` key. -/
structure LocalRow (κ : Type*) where
  id : ℕ
  values : κ → SqlValue

/-- A local table: its rows and the next key. -/
structure LocalTable (κ : Type*) where
  rows : List (LocalRow κ)
  nextId : ℕ
  id_lt : ∀ row ∈ rows, row.id < nextId
  nodup : (rows.map LocalRow.id).Nodup

namespace LocalTable

/-- An empty table. -/
def empty : LocalTable κ := ⟨[], 1, by simp, by simp⟩

/-- `INSERT` -/
def insert (table : LocalTable κ) (values : κ → SqlValue) : LocalTable κ where
  rows := table.rows ++ [⟨table.nextId, values⟩]
  nextId := table.nextId + 1
  id_lt row hrow := by
    rcases List.mem_append.mp hrow with hold | hnew
    · exact Nat.lt_succ_of_lt (table.id_lt row hold)
    · rw [List.mem_singleton.mp hnew]
      exact Nat.lt_succ_self _
  nodup := by
    rw [List.map_append]
    refine List.Nodup.append table.nodup (by simp) ?_
    simp only [List.map_cons, List.map_nil, List.disjoint_singleton, List.mem_map, not_exists,
      not_and]
    exact fun row hrow => Nat.ne_of_lt (table.id_lt row hrow)

/-- `DELETE … WHERE`: keep the rows that do not match. -/
def delete (table : LocalTable κ) (matching : (κ → SqlValue) → Bool) : LocalTable κ where
  rows := table.rows.filter fun row => !matching row.values
  nextId := table.nextId
  id_lt row hrow := table.id_lt row (List.mem_of_mem_filter hrow)
  nodup := (List.filter_sublist.map _).nodup table.nodup

theorem mem_delete {table : LocalTable κ} {matching : (κ → SqlValue) → Bool} {row : LocalRow κ} :
    row ∈ (table.delete matching).rows ↔ row ∈ table.rows ∧ matching row.values = false := by
  simp [delete, List.mem_filter]

/-- Rows are told apart by their keys. -/
theorem eq_of_id_eq {table : LocalTable κ} {row other : LocalRow κ} (hrow : row ∈ table.rows)
    (hother : other ∈ table.rows) (hid : row.id = other.id) : row = other :=
  List.inj_on_of_nodup_map table.nodup hrow hother hid

end LocalTable

end LinuxPBS.Db
