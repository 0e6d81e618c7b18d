import Mathlib.Data.List.Dedup
import Mathlib.Data.Fintype.Pi
import Athena.Library.DistinctCount
import Athena.Library.Traverse
import Athena.Polars.DataType

/-!
# Polars data frames

A frame is a list of rows over distinctly named columns. Cells are null or a value of a type with
decidable equality, and every count of this module uses that one equality. Polars refuses `n_unique`
and `unique` for a column of Python objects; here it is counted like any other, and the readers make
none. A frame without columns has no rows.

`pl.col(s)` is a pattern over the column names: `select` expands it first, so that one expression
can produce any number of output columns, all under the expression's alias.
-/

namespace Athena

open Library

inductive PolarsError
  | columnNotFoundError (name : String)
  | duplicateError (name : String)
  /-- The pattern is not a regular expression. -/
  | computeError (pattern : String)
  | keyError (name : String)
  deriving DecidableEq

/-- What the frame operations use of Polars. -/
structure Polars where
  /-- The names a regular expression matches; none where it does not compile. -/
  regex : String → Option (String → Bool)
  /-- The text of a parametrised type between its parentheses. -/
  parameters : DataType → String

structure DataFrame (V : Type) where
  width : Nat
  name : Fin width → String
  dtype : Fin width → DataType
  rows : List (Fin width → Option V)
  name_injective : Function.Injective name
  rows_of_width_zero : width = 0 → rows = []

/-- An expression over one column: `nullCount` is `null_count()`, `distinctCount` is
`drop_nulls().n_unique()`. -/
inductive Aggregation
  | nullCount
  | distinctCount
  deriving DecidableEq

/-- `pl.col(selector)` with an aggregation, under an alias. -/
structure Expr where
  selector : String
  aggregation : Aggregation
  aliasName : String
  deriving DecidableEq

namespace DataFrame

variable {V : Type}

def height (frame : DataFrame V) : Nat := frame.rows.length

def columns (frame : DataFrame V) : List String := List.ofFn frame.name

def column (frame : DataFrame V) (i : Fin frame.width) : List (Option V) := frame.rows.map (· i)

theorem width_pos_of_height_pos {frame : DataFrame V} (h : 0 < frame.height) : 0 < frame.width := by
  apply Nat.pos_of_ne_zero
  intro hwidth
  rw [height, frame.rows_of_width_zero hwidth] at h
  exact Nat.lt_irrefl 0 h

/-- A frame with one column. -/
def single (name : String) (dtype : DataType) (rows : List (Fin 1 → Option V)) : DataFrame V where
  width := 1
  name := fun _ => name
  dtype := fun _ => dtype
  rows := rows
  name_injective := Function.injective_of_subsingleton _
  rows_of_width_zero := fun h => absurd h Nat.one_ne_zero

/-! ### Names -/

/-- The column called `name`. -/
def index? (frame : DataFrame V) (name : String) : Option (Fin frame.width) :=
  (List.finRange frame.width).find? (frame.name · = name)

@[simp] theorem index?_name (frame : DataFrame V) (i : Fin frame.width) :
    frame.index? (frame.name i) = some i := by
  cases hfind : frame.index? (frame.name i) with
  | none => simpa using List.find?_eq_none.mp hfind i (List.mem_finRange i)
  | some j =>
      have hname : frame.name j = frame.name i := by simpa using List.find?_some hfind
      rw [frame.name_injective hname]

/-- `frame.schema[name]`. -/
def schema (frame : DataFrame V) (name : String) : Except PolarsError DataType :=
  (frame.index? name).elim (.error (.keyError name)) fun i => .ok (frame.dtype i)

@[simp] theorem schema_name (frame : DataFrame V) (i : Fin frame.width) :
    frame.schema (frame.name i) = .ok (frame.dtype i) := by
  rw [schema, index?_name, Option.elim_some]

def IsPattern (selector : String) : Prop :=
  "^".toList.isPrefixOf selector.toList ∧ "$".toList.isSuffixOf selector.toList

instance : DecidablePred IsPattern := fun _ => inferInstanceAs (Decidable (_ ∧ _))

/-- The columns that `pl.col(selector)` denotes. -/
def selected (polars : Polars) (frame : DataFrame V) (selector : String) :
    Except PolarsError (List (Fin frame.width)) :=
  if selector = "*" then .ok (List.finRange frame.width)
  else if IsPattern selector then
    match polars.regex selector with
    | some names => .ok ((List.finRange frame.width).filter fun i => names (frame.name i))
    | none => .error (.computeError selector)
  else (frame.index? selector).elim (.error (.columnNotFoundError selector)) fun i => .ok [i]

/-- Polars takes every column name literally, neither as the wildcard nor as a pattern. -/
def LiteralNames (frame : DataFrame V) : Prop := ∀ i, frame.name i ≠ "*" ∧ ¬IsPattern (frame.name i)

instance (frame : DataFrame V) : Decidable frame.LiteralNames := Nat.decidableForallFin _

theorem LiteralNames.selected {frame : DataFrame V} (h : frame.LiteralNames) (polars : Polars)
    (i : Fin frame.width) :
    frame.selected polars (frame.name i) = .ok [i] := by
  rw [DataFrame.selected, if_neg (h i).1, if_neg (h i).2, index?_name, Option.elim_some]

/-- The same names and types over other rows. -/
abbrev withRows (frame : DataFrame V) (rows : List (Fin frame.width → Option V))
    (hrows : frame.width = 0 → rows = []) :
    DataFrame V :=
  { frame with rows := rows, rows_of_width_zero := hrows }

/-- The columns in another order: column `i` is column `σ i` of the frame. -/
abbrev permuteColumns (frame : DataFrame V) (σ : Equiv.Perm (Fin frame.width)) : DataFrame V where
  width := frame.width
  name := fun i => frame.name (σ i)
  dtype := fun i => frame.dtype (σ i)
  rows := frame.rows.map fun row i => row (σ i)
  name_injective := frame.name_injective.comp σ.injective
  rows_of_width_zero := fun hwidth => List.map_eq_nil_iff.mpr (frame.rows_of_width_zero hwidth)

/-! ### Counts -/

variable [DecidableEq V]

def nullCount (frame : DataFrame V) (i : Fin frame.width) : Nat := (frame.column i).count none

/-- The number of distinct non-null values of a column. -/
def distinctCount (frame : DataFrame V) (i : Fin frame.width) : Nat :=
  (frame.column i).reduceOption.dedup.length

/-- `frame.unique().height`. -/
def uniqueHeight (frame : DataFrame V) : Nat := frame.rows.dedup.length

theorem distinctCount_add_nullCount_le (frame : DataFrame V) (i : Fin frame.width) :
    frame.distinctCount i + frame.nullCount i ≤ frame.height := by
  have hcolumn := dedup_length_reduceOption_add_count_none_le (frame.column i)
  rwa [column, List.length_map] at hcolumn

theorem distinctCount_eq_zero_iff (frame : DataFrame V) (i : Fin frame.width) :
    frame.distinctCount i = 0 ↔ frame.nullCount i = frame.height := by
  have hcolumn := dedup_length_reduceOption_eq_zero_iff (frame.column i)
  rwa [column, List.length_map] at hcolumn

theorem uniqueHeight_le_height (frame : DataFrame V) : frame.uniqueHeight ≤ frame.height :=
  dedup_length_le frame.rows

theorem uniqueHeight_pos {frame : DataFrame V} (h : 0 < frame.height) : 0 < frame.uniqueHeight :=
  dedup_length_pos (List.length_pos_iff.mp h)

def aggregate (frame : DataFrame V) : Aggregation → Fin frame.width → Nat
  | .nullCount => frame.nullCount
  | .distinctCount => frame.distinctCount

/-! ### Selecting -/

/-- The output columns of one expression. -/
def outputs (polars : Polars) (frame : DataFrame V) (e : Expr) :
    Except PolarsError (List (String × Nat)) :=
  (frame.selected polars e.selector).map fun indices =>
    indices.map fun i => (e.aliasName, frame.aggregate e.aggregation i)

/-- The one-row frame of the expressions' output columns. -/
def select (polars : Polars) (frame : DataFrame V) (expressions : List Expr) :
    Except PolarsError (List (String × Nat)) := do
  let expanded ← expressions.mapM (frame.outputs polars)
  let names := expanded.flatten.map Prod.fst
  match names.find? (1 < names.count ·) with
  | some name => throw (.duplicateError name)
  | none => return expanded.flatten

theorem select_eq_ok_iff (polars : Polars) (frame : DataFrame V) (expressions : List Expr)
    (selection : List (String × Nat)) :
    frame.select polars expressions = .ok selection ↔
      ∃ expanded, expressions.mapM (frame.outputs polars) = .ok expanded ∧
      selection = expanded.flatten ∧
        (selection.map Prod.fst).Nodup := by
  rw [select]
  cases hexpanded : expressions.mapM (frame.outputs polars) with
  | error e => simp [bind, Except.bind]
  | ok expanded =>
      simp only [bind, Except.bind, Except.ok.injEq, exists_eq_left']
      cases hfind : (expanded.flatten.map Prod.fst).find?
        (1 < (expanded.flatten.map Prod.fst).count ·) with
      | some name =>
          have hcount : 1 < (expanded.flatten.map Prod.fst).count name := by
            simpa using List.find?_some hfind
          constructor
          · intro h
            simp [throw, throwThe, MonadExceptOf.throw] at h
          · rintro ⟨rfl, hnodup⟩
            exact absurd (List.nodup_iff_count_le_one.mp hnodup name) (by omega)
      | none =>
          have hnodup : (expanded.flatten.map Prod.fst).Nodup := by
            rw [List.nodup_iff_count_le_one]
            intro name
            by_cases hmem : name ∈ expanded.flatten.map Prod.fst
            · simpa using List.find?_eq_none.mp hfind name hmem
            · rw [List.count_eq_zero.mpr hmem]
              exact Nat.zero_le 1
          constructor
          · intro h
            obtain rfl : expanded.flatten = selection := Except.ok.inj h
            exact ⟨rfl, hnodup⟩
          · rintro ⟨rfl, -⟩
            rfl

theorem outputs_ok {polars : Polars} {frame : DataFrame V} {e : Expr} {here : List (String × Nat)}
    (h : frame.outputs polars e = .ok here) :
    ∃ indices, frame.selected polars e.selector = .ok indices ∧
      here = indices.map fun i => (e.aliasName, frame.aggregate e.aggregation i) := by
  rw [outputs] at h
  cases hindices : frame.selected polars e.selector with
  | error e => simp [hindices, Except.map] at h
  | ok indices =>
      rw [hindices] at h
      exact ⟨indices, rfl, (Except.ok.inj h).symm⟩

/-- Every output column is named by the alias of one of the expressions. -/
theorem names_subset {polars : Polars} {frame : DataFrame V} {expressions : List Expr}
    {expanded : List (List (String × Nat))}
    (h : List.Forall₂ (fun e here => frame.outputs polars e = .ok here) expressions expanded) :
    expanded.flatten.map Prod.fst ⊆ expressions.map Expr.aliasName := by
  induction h with
  | nil => exact List.Subset.refl _
  | cons hhead _ ih =>
      obtain ⟨indices, -, rfl⟩ := outputs_ok hhead
      intro name hname
      rw [List.flatten_cons, List.map_append, List.mem_append] at hname
      rcases hname with hhere | hlater
      · obtain ⟨_, hmem, rfl⟩ := List.mem_map.mp hhere
        obtain ⟨i, -, rfl⟩ := List.mem_map.mp hmem
        exact List.mem_cons_self
      · exact List.mem_cons_of_mem _ (ih hlater)

private theorem lookup_eq_none {selection : List (String × Nat)} {name : String}
    (h : name ∉ selection.map Prod.fst) : selection.lookup name = none := by
  rw [List.lookup_eq_none_iff]
  intro output houtput
  have hne : name ≠ output.1 := fun hname => h (hname ▸ List.mem_map_of_mem houtput)
  simpa using hne

/-- Where the aliases are distinct, each selected expression denotes one column at most, and its
alias names that column's output. -/
theorem select_ok {polars : Polars} {frame : DataFrame V} {expressions : List Expr}
    {selection : List (String × Nat)} (h : frame.select polars expressions = .ok selection)
    (haliases : (expressions.map Expr.aliasName).Nodup) {e : Expr} (he : e ∈ expressions) :
    ∃ indices, frame.selected polars e.selector = .ok indices ∧ indices.length ≤ 1 ∧
      selection.lookup e.aliasName = indices.head?.map (frame.aggregate e.aggregation) := by
  obtain ⟨expanded, hexpanded, rfl, hnodup⟩ :=
    (select_eq_ok_iff polars frame expressions selection).mp h
  rw [mapM_eq_ok_iff] at hexpanded
  clear h
  induction hexpanded with
  | nil => exact absurd he List.not_mem_nil
  | @cons first here expressions expanded hfirst hrest ih =>
      rw [List.flatten_cons, List.map_append, List.nodup_append'] at hnodup
      rw [List.map_cons, List.nodup_cons] at haliases
      obtain ⟨indices, hindices, rfl⟩ := outputs_ok hfirst
      have hlater : first.aliasName ∉ expanded.flatten.map Prod.fst := fun hmem =>
        haliases.1 (names_subset hrest hmem)
      rcases List.mem_cons.mp he with rfl | hmem
      · refine ⟨indices, hindices, ?_⟩
        rw [List.flatten_cons, List.lookup_append, lookup_eq_none hlater, Option.or_none]
        rcases indices with _ | ⟨i, _ | ⟨i', indices⟩⟩
        · exact ⟨Nat.zero_le 1, rfl⟩
        · exact ⟨Nat.le_refl 1, List.lookup_cons_self⟩
        · -- Two columns under one alias.
          simp at hnodup
      · obtain ⟨indices', hindices', hlength, hlookup⟩ := ih haliases.2 hmem hnodup.2.1
        refine ⟨indices', hindices', hlength, ?_⟩
        have hother : e.aliasName ≠ first.aliasName :=
          fun hsame => haliases.1 (hsame ▸ List.mem_map_of_mem hmem)
        have hhere : e.aliasName ∉ (indices.map fun i =>
            (first.aliasName, frame.aggregate first.aggregation i)).map Prod.fst := by
          simp [hother.symm]
        rw [← hlookup, List.flatten_cons, List.lookup_append, lookup_eq_none hhere, Option.none_or]

theorem select_returns {polars : Polars} {frame : DataFrame V} {expressions : List Expr}
    (haliases : (expressions.map Expr.aliasName).Nodup)
    (h : ∀ e ∈ expressions, ∃ indices, frame.selected polars e.selector = .ok indices ∧
      indices.length ≤ 1) :
    ∃ selection, frame.select polars expressions = .ok selection := by
  have hexpanded : ∃ expanded,
      List.Forall₂ (fun e here => frame.outputs polars e = .ok here) expressions expanded ∧
      (expanded.flatten.map Prod.fst).Nodup := by
    induction expressions with
    | nil => exact ⟨[], .nil, List.nodup_nil⟩
    | cons e expressions ih =>
        rw [List.map_cons, List.nodup_cons] at haliases
        obtain ⟨indices, hindices, hlength⟩ := h e List.mem_cons_self
        obtain ⟨expanded, hrest, hnodup⟩ :=
          ih haliases.2 fun e' he' => h e' (List.mem_cons_of_mem e he')
        refine ⟨_ :: expanded, .cons (by rw [outputs, hindices]; rfl) hrest, ?_⟩
        rw [List.flatten_cons, List.map_append, List.nodup_append']
        refine ⟨?_, hnodup, ?_⟩
        · rcases indices with _ | ⟨i, _ | ⟨i', indices⟩⟩
          · exact List.nodup_nil
          · exact List.nodup_singleton _
          · simp at hlength
        · intro name hhere hlater
          obtain ⟨_, hmem, rfl⟩ := List.mem_map.mp hhere
          obtain ⟨i, -, rfl⟩ := List.mem_map.mp hmem
          exact haliases.1 (names_subset hrest hlater)
  obtain ⟨expanded, hrows, hnodup⟩ := hexpanded
  exact ⟨expanded.flatten, (select_eq_ok_iff polars frame expressions _).mpr
    ⟨expanded, mapM_eq_ok_iff.mpr hrows, rfl, hnodup⟩⟩

end DataFrame

/-- `frame.get_column(name)[0]` of a one-row frame. -/
def getColumn (selection : List (String × Nat)) (name : String) : Except PolarsError Nat :=
  match selection.lookup name with
  | some value => .ok value
  | none => .error (.columnNotFoundError name)

end Athena
