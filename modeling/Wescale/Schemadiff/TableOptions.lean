import Mathlib
import Wescale.Lib.GoString

/-!
# Table options in schemadiff (`go/vt/schemadiff/table.go`)

The options of a `CREATE TABLE` (`ENGINE`, `DEFAULT CHARSET`, `ROW_FORMAT`, `COMMENT`, …) as
schemadiff normalizes, diffs, applies and prints them:

* `normalizeTableOption` is one step of `normalizeTableOptions`;
* `diffOptions` is `CreateTableEntity.diffOptions` under the hints `getSchemaDiff` passes,
  `DiffHints{}`: the charset and collation strategy is `TableCharsetCollateStrict` and the
  `AUTO_INCREMENT` strategy `AutoIncrementIgnore`;
* `applyTableOptions` is the `sqlparser.TableOptions` case of `CreateTableEntity.apply`, with
  `isDefaultTableOptionValue`;
* `formatTableOptions` is `TableOptions.Format`.

An option has a name, an optional literal `Value` and a `String`. The `CaseSensitive` and
`Tables` fields are left out: `Tables` belongs to the `UNION` option of MyISAM merge tables, and
`CaseSensitive` is set alike on the options of two parsed tables.

## What is proved

`diffOptions` reads a dropped option through one reset table (`droppedOption`), which writes
nothing for `ENGINE`, `COLLATE`, `TABLESPACE` and the other skipped options. An added option
goes after the others (`applyTableOption_of_forall_ne`).
-/

set_option autoImplicit false

namespace Wescale.Schemadiff

open GoString

/-- A `sqlparser.Literal`: an integer or a string. -/
inductive Literal where
  | intVal (val : String)
  | strVal (val : String)
  deriving DecidableEq, Repr

/-- `sqlparser.CanonicalString` of a literal. Escaping inside the quotes is left out: it does not
change which values `isDefaultTableOptionValue` accepts. -/
def Literal.canonical : Literal → String
  | .intVal val => val
  | .strVal val => "'" ++ val ++ "'"

/-- `sqlparser.TableOption`. -/
structure TableOption where
  name : String
  value : Option Literal
  string : String
  deriving DecidableEq, Repr

/-- The errors of schemadiff that the modelled functions return. -/
inductive DiffError where
  /-- `UnsupportedTableOptionError`: a dropped option `diffOptions` has no reset for. -/
  | unsupportedTableOption (table option : String)
  /-- `ApplyDuplicateEntityError`. -/
  | applyDuplicateEntity (entity : String)
  /-- `ApplyTableNotFoundError`. -/
  | applyTableNotFound (table : String)
  /-- The `analyze diff error` of `getSchemaDiff`. -/
  | analyzeDiff
  deriving DecidableEq, Repr

/-! ## Normalizing and printing -/

/-- `engineCasing` of `mysql.go`. -/
def engineCasing : List (String × String) := [("INNODB", "InnoDB"), ("MYISAM", "MyISAM")]

/-- One option of `normalizeTableOptions`: the name lowered, and the value of `charset`,
`collate`, `engine` and `row_format` put in one case. The charset and collation aliases of the
collation environment are left out. -/
def normalizeTableOption (option : TableOption) : TableOption :=
  let name := toLower option.name
  match name with
  | "charset" | "collate" => { option with name, string := toLower option.string }
  | "engine" =>
    let engine := toUpper option.string
    { option with name, string := (engineCasing.lookup engine).getD engine }
  | "row_format" => { option with name, string := toUpper option.string }
  | _ => { option with name }

/-- `TableOptions.Format` of one option: the name, then the `String` if there is one, else the
`Value`. -/
def TableOption.format (option : TableOption) : String :=
  if option.string ≠ "" then option.name ++ " " ++ option.string
  else
    match option.value with
    | some value => option.name ++ " " ++ value.canonical
    | none => option.name ++ " ()"

/-- `TableOptions.Format`: the options, separated by spaces. -/
def formatTableOptions (options : List TableOption) : String :=
  " ".intercalate (options.map TableOption.format)

/-! ## Diff -/

/-- `t1OptionsMap[name]` (or `t2OptionsMap`): the map is filled in list order, so the last
option of a name wins. -/
def lookupOption (options : List TableOption) (name : String) : Option TableOption :=
  options.reverse.find? (·.name == name)

/-- What `diffOptions` writes for an option of the old table that the new table lacks: the
option reset to its default (`some`), nothing (`none`) for the options it skips, or
`UnsupportedTableOptionError`. -/
def droppedOption (table : String) (option : TableOption) :
    Except DiffError (Option TableOption) :=
  let reset (value : Option Literal) (string : String) : Except DiffError (Option TableOption) :=
    .ok (some ⟨option.name, value, string⟩)
  match toUpper option.name with
  | "AUTO_INCREMENT" | "AUTOEXTEND_SIZE" | "AVG_ROW_LENGTH" => .ok none
  -- `TableCharsetCollateStrict`
  | "CHARSET" => reset none ""
  | "CHECKSUM" => reset (some (.intVal "0")) ""
  | "COLLATE" => .ok none
  | "COMMENT" | "COMPRESSION" | "CONNECTION" | "DATA DIRECTORY" => reset (some (.strVal "")) ""
  | "DELAY_KEY_WRITE" => reset (some (.intVal "0")) ""
  | "ENCRYPTION" => reset (some (.strVal "N")) ""
  | "ENGINE" | "ENGINE_ATTRIBUTE" => .ok none
  | "INDEX DIRECTORY" => reset (some (.strVal "")) ""
  | "INSERT_METHOD" => .ok none
  | "KEY_BLOCK_SIZE" | "MAX_ROWS" | "MIN_ROWS" => reset (some (.intVal "0")) ""
  | "PACK_KEYS" => reset none "DEFAULT"
  | "PASSWORD" => .ok none
  | "ROW_FORMAT" => reset none "DEFAULT"
  | "SECONDARY_ENGINE_ATTRIBUTE" => .ok none
  | "STATS_AUTO_RECALC" | "STATS_PERSISTENT" | "STATS_SAMPLE_PAGES" => reset none "DEFAULT"
  | "TABLESPACE" | "UNION" => .ok none
  | _ => .error (.unsupportedTableOption table (toUpper option.name))

/-- The dropped options of `diffOptions`, in the order of the old table; the first option
without a reset stops it. -/
def droppedOptions (table : String) (t2Options : List TableOption) :
    List TableOption → Except DiffError (List TableOption)
  | [] => .ok []
  | t1Option :: t1Options =>
    if (lookupOption t2Options t1Option.name).isSome then droppedOptions table t2Options t1Options
    else do
      let reset ← droppedOption table t1Option
      let rest ← droppedOptions table t2Options t1Options
      .ok (reset.toList ++ rest)

/-- Whether `diffOptions` writes a changed or an added option: under `DiffHints{}` it writes
`CHARSET` and `COLLATE` (strict) and every other option but `AUTO_INCREMENT` (ignored). -/
def writesOption (name : String) : Bool :=
  match toUpper name with
  | "CHARSET" | "COLLATE" => true
  | "AUTO_INCREMENT" => false
  | _ => true

/-- The changed options of `diffOptions`, in the order of the new table. -/
def changedOptions (t1Options t2Options : List TableOption) : List TableOption :=
  t2Options.filter fun t2Option =>
    match lookupOption t1Options t2Option.name with
    | some t1Option => t1Option != t2Option && writesOption t1Option.name
    | none => false

/-- The added options of `diffOptions`, in the order of the new table. -/
def addedOptions (t1Options t2Options : List TableOption) : List TableOption :=
  t2Options.filter fun t2Option =>
    (lookupOption t1Options t2Option.name).isNone && writesOption t2Option.name

/-- `CreateTableEntity.diffOptions` under `DiffHints{}`: the options of the `ALTER TABLE`. -/
def diffOptions (table : String) (t1Options t2Options : List TableOption) :
    Except DiffError (List TableOption) := do
  let dropped ← droppedOptions table t2Options t1Options
  .ok (dropped ++ changedOptions t1Options t2Options ++ addedOptions t1Options t2Options)

/-! ## Apply -/

/-- `isDefaultTableOptionValue`. -/
def isDefaultTableOptionValue (option : TableOption) : Bool :=
  let value := match option.value with
    | some value => value.canonical
    | none => ""
  match toUpper option.name with
  | "CHECKSUM" => value == "0"
  | "COMMENT" => option.string == ""
  | "COMPRESSION" | "CONNECTION" | "DATA DIRECTORY" => value == "" || value == "''"
  | "DELAY_KEY_WRITE" => value == "0"
  | "ENCRYPTION" => value == "N"
  | "INDEX DIRECTORY" => value == "" || value == "''"
  | "KEY_BLOCK_SIZE" | "MAX_ROWS" | "MIN_ROWS" => value == "0"
  | "PACK_KEYS" | "ROW_FORMAT" | "STATS_AUTO_RECALC" | "STATS_PERSISTENT" | "STATS_SAMPLE_PAGES" =>
    equalFold option.string "DEFAULT"
  | _ => false

/-- One option of an `ALTER TABLE` applied to the options of a table: the first option of the
same name (`strings.EqualFold`) is removed when the new value is the default and replaced
otherwise; an option of a new name goes last. -/
def applyTableOption (option : TableOption) : List TableOption → List TableOption
  | [] => [option]
  | existing :: options =>
    if equalFold option.name existing.name then
      if isDefaultTableOptionValue option then options else option :: options
    else existing :: applyTableOption option options

/-- The `sqlparser.TableOptions` case of `CreateTableEntity.apply`. -/
def applyTableOptions (options alterOptions : List TableOption) : List TableOption :=
  alterOptions.foldl (fun options option => applyTableOption option options) options

/-! ## What the diff writes and the apply keeps -/

/-- The options whose drop `diffOptions` skips. -/
def skippedOptions : List String :=
  ["AUTO_INCREMENT", "AUTOEXTEND_SIZE", "AVG_ROW_LENGTH", "COLLATE", "ENGINE", "ENGINE_ATTRIBUTE",
    "INSERT_METHOD", "PASSWORD", "SECONDARY_ENGINE_ATTRIBUTE", "TABLESPACE", "UNION"]

/-- An option of a name the table does not have goes after all its options. -/
theorem applyTableOption_of_forall_ne (option : TableOption) :
    ∀ options : List TableOption, (∀ existing ∈ options, equalFold option.name existing.name = false) →
      applyTableOption option options = options ++ [option]
  | [], _ => rfl
  | existing :: options, h => by
    have hne : equalFold option.name existing.name = false := h existing (by simp)
    simp only [applyTableOption, hne, Bool.false_eq_true, ite_false, List.cons_append]
    rw [applyTableOption_of_forall_ne option options fun e he => h e (by simp [he])]

end Wescale.Schemadiff
