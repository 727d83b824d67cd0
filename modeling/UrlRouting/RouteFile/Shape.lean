import UrlRouting.Document.Basic
import UrlRouting.RouteFile.Basic

/-! The shape of a route file as a document. -/

namespace UrlRouting

/-- Truth is no parameter value; falsity, like null and the empty text, is the lack of one. -/
def ParamValue.ofDocument? : Document → Option ParamValue
  | .scalar _ value _ =>
    match value with
    | .null => some .absent
    | .bool b => if b then none else some .absent
    | .int i => some (.int i)
    | .text s => some (.ofString s)
    | .foreign => none
    | .falseNull => none
  | _ => none

/-- Of entries with the same name the last counts. -/
def ParameterSet.ofDocument? (d : Document) : Option ParameterSet := do
  let entries ← d.entries?
  let values ← entries.mapM fun e => (ParamValue.ofDocument? e.2).map fun v => (e.1, v)
  some (NameMap.ofList values)

def Validators.ofDocument? (d : Document) : Option Validators := do
  let entries ← d.entries?
  let texts ← entries.mapM fun e => e.2.text?.map fun s => (e.1, s)
  some (NameMap.ofList texts)

def orElse {α : Type} (missing : α) (read : Document → Option α) : Option Document → Option α
  | none => some missing
  | some d => read d

def Declaration.ofDocument? (form : RecordForm) (d : Document) : Option Declaration := do
  match ← form.fields? ["pattern", "alias", "defaults", "validators"] d with
  | [some pattern, aliasName, defaults, validators] => do
    let pattern ← pattern.text?
    let aliasName ← orElse none Document.optionalText? aliasName
    let defaults ← orElse NameMap.empty ParameterSet.ofDocument? defaults
    let validators ← orElse NameMap.empty Validators.ofDocument? validators
    some ⟨pattern, aliasName, defaults, validators⟩
  | _ => none

namespace RouteFile

def ofDocument? (form : RecordForm) (d : Document) : Option RouteFile := do
  match ← form.fields? ["prefix", "script_name", "routes"] d with
  | [mount, scriptName, routes] => do
    let mount ← orElse none Document.optionalText? mount
    let scriptName ← orElse none Document.optionalText? scriptName
    let routes ← orElse [] (fun d => d.items?.bind (·.mapM (Declaration.ofDocument? form))) routes
    some ⟨mount, scriptName, routes⟩
  | _ => none

end RouteFile

end UrlRouting
