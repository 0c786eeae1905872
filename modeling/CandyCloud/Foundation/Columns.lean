import CandyCloud.Foundation.Table

/-! # Statements that name columns

A table at the level of its statements: each names the columns it reads or writes, and fails
when the table lacks one of them.
-/

namespace Foundation

/-- A column. One without a default has to be given a value. -/
structure Column (ν : Type) where
  name : String
  fallback : Option ν
deriving DecidableEq, Repr

/-- The values of a row by the names of their columns. -/
abbrev Cells (ν : Type) := List (String × ν)

inductive Condition (ν : Type) where
  | equals (column : String) (value : ν)
  | exceeds (column : String) (value : ν)
deriving DecidableEq, Repr

structure Sheet (ν : Type) where
  columns : List (Column ν)
  unique : List (List String)
  rows : List (Cells ν)
deriving DecidableEq, Repr

variable {name : String} {names : List String}

section Statements

variable {ν : Type} [DecidableEq ν] (less : ν → ν → Bool)

namespace Condition

def column : Condition ν → String
  | .equals column _ | .exceeds column _ => column

def holds (row : Cells ν) : Condition ν → Bool
  | .equals column value => decide (row.lookup column = some value)
  | .exceeds column value => (row.lookup column).any fun held => less value held

end Condition

def matching (conditions : List (Condition ν)) (row : Cells ν) : Bool :=
  conditions.all (·.holds less row)

/-- The row after the given columns are set. -/
def overwrite (cells : Cells ν) (row : Cells ν) : Cells ν :=
  row.map fun cell => (cell.1, (cells.lookup cell.1).getD cell.2)

variable {conditions : List (Condition ν)}

namespace Sheet

variable (sheet : Sheet ν)

def knows (name : String) : Bool := sheet.columns.any fun column => decide (column.name = name)

/-- `SELECT names … WHERE conditions`. -/
def select (names : List String) (conditions : List (Condition ν)) : Option (List (Cells ν)) :=
  if (names ++ conditions.map (·.column)).all sheet.knows then
    some ((sheet.rows.filter (matching less conditions)).map fun row =>
      row.filter fun cell => names.contains cell.1)
  else none

/-- `UPDATE … SET cells WHERE conditions`. -/
def update (cells : Cells ν) (conditions : List (Condition ν)) : Option (Sheet ν) :=
  if (cells.map (·.1) ++ conditions.map (·.column)).all sheet.knows then
    some { sheet with rows := updateWhere (matching less conditions) (overwrite cells) sheet.rows }
  else none

/-- A row with the given cells and the defaults of the other columns. -/
def complete (cells : Cells ν) : Option (Cells ν) :=
  sheet.columns.mapM fun column =>
    ((cells.lookup column.name).or column.fallback).map fun value => (column.name, value)

/-- Two rows agree on the columns of a unique key. -/
def clashes (new old : Cells ν) : Bool :=
  sheet.unique.any fun key => key.all fun name => decide (new.lookup name = old.lookup name)

/-- `INSERT INTO … (names) VALUES …`. -/
def insert (cells : Cells ν) : Option (Sheet ν) :=
  if (cells.map (·.1)).all sheet.knows then do
    let row ← sheet.complete cells
    if sheet.rows.any (sheet.clashes row) then none
    else return { sheet with rows := sheet.rows ++ [row] }
  else none

variable {sheet less}

theorem select_unknown (named : name ∈ names ++ conditions.map (·.column))
    (unknown : sheet.knows name = false) :
    sheet.select less names conditions = none := by
  refine if_neg ?_
  intro known
  rw [List.all_eq_true.mp known name named] at unknown
  cases unknown

end Sheet

end Statements

end Foundation
