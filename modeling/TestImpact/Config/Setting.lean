import TestImpact.Config.Lenient

/-!
# Records made of settings

A record of type `σ` is described by the list of its settings. A `Setting` has a name
and knows how to change a record by a value. Reading a table goes through the settings in
their order, leaves those alone that the table does not mention unless they are needed,
ignores every other key, and collects all problems before it gives up.
-/

namespace TestImpact

/-- A named part of a record that can be given a value. -/
structure Setting (σ : Type) where
  name : String
  assign : σ → Value → Checked σ
  required : Bool := false

namespace Setting

/-- A setting whose value is read by `read` and put into place by `change`. -/
def simple {σ α : Type} (name : String) (read : Value → Except Problem α) (change : σ → α → σ) :
    Setting σ :=
  { name, assign := fun record v => (Checked.ofProblem (read v)).map (change record) }

/-- A setting whose parts have problems of their own. -/
def composite {σ α : Type} (name : String) (read : Value → Checked α) (change : σ → α → σ) :
    Setting σ :=
  { name, assign := fun record v => (read v).map (change record) }

/-- The setting that a table must mention. -/
def needed {σ : Type} (setting : Setting σ) : Setting σ :=
  { setting with required := true }

/-- Gives a setting the value that a table has for it. -/
def take {σ : Type} (setting : Setting σ) (entries : List (String × Value)) (record : σ) :
    Checked σ :=
  match Value.get? entries setting.name with
  | none => if setting.required then .error [⟨[setting.name], .missing⟩] else .ok record
  | some v => Checked.within setting.name (setting.assign record v)

/-- A record with the settings of a table, and the problems with those that do not fit. -/
def takeAll {σ : Type} (entries : List (String × Value)) :
    List (Setting σ) → σ → σ × List Detail
  | [], record => (record, [])
  | setting :: rest, record =>
    match setting.take entries record with
    | .ok changed => takeAll entries rest changed
    | .error details =>
      let (changed, more) := takeAll entries rest record
      (changed, details ++ more)

/-- Reads a table into a record that starts as `default`. -/
def readTable {σ : Type} (settings : List (Setting σ)) (default : σ)
    (entries : List (String × Value)) : Checked σ :=
  match takeAll entries settings default with
  | (record, []) => .ok record
  | (_, details) => .error details

/-- Reads a value that must be a table into a record that starts as `default`. -/
def readRecord {σ : Type} (settings : List (Setting σ)) (default : σ) : Value → Checked σ
  | .table entries => readTable settings default entries
  | _ => .error [⟨[], .recordType⟩]

/-- Gives the setting with a name a value. -/
def assign? {σ : Type} (settings : List (Setting σ)) (name : String) (record : σ) (v : Value) :
    Option (Checked σ) :=
  (settings.find? (·.name = name)).map fun setting =>
    Checked.within name (setting.assign record v)

end Setting

end TestImpact
