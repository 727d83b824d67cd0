import UrlRouting.RouteFile.Format
import UrlRouting.Proofs.Json.Value
import UrlRouting.Proofs.NameMap
import UrlRouting.Proofs.Traversal

/-! Route files written in JSON and read again. For each thing that a file holds there is the document that
its text spells, and the thing that is read from the document: the same one, unless a default is an empty
text, which is written like no value. -/

namespace UrlRouting

open Json

theorem Json.forall₂_spellsEntry_map {α : Type} {write : α → List Char} {document : α → Document}
    (each : ∀ v, Spells (write v) (document v)) (entries : List (String × α)) :
    List.Forall₂ SpellsEntry (entries.map fun e => (e.1, write e.2))
      (entries.map fun e => (e.1, document e.2)) :=
  forall₂_map_map (fun e => ⟨rfl, each e.2⟩) entries

/-! Values and sets of them. -/

namespace ParamValue

/-- The value as it is read back. -/
def readBack (v : ParamValue) : ParamValue := if v = text "" then absent else v

/-- The document that the text of the value spells. -/
def document : ParamValue → Document
  | text s => if s = "" then .ofScalar .null else .ofText s
  | int i => .ofScalar (.int i)
  | absent => .ofScalar .null

theorem spells_document (v : ParamValue) : Spells (writeValue v) v.document := by
  cases v with
  | text s =>
    rw [writeValue, document]
    split
    · exact spells_null
    · exact spells_text s
  | int i => exact spells_int i
  | absent => exact spells_null

/-- An integer is read as an integer and digits as a text, as the quotes are kept. -/
theorem ofDocument?_document (v : ParamValue) : ofDocument? v.document = some v.readBack := by
  cases v with
  | text s =>
    rw [document]
    split
    next empty =>
      rw [empty]
      rfl
    next present =>
      have kept : text s ≠ text "" := fun same => present (text.inj same)
      rw [readBack, if_neg kept]
      simp [ofDocument?, Document.ofText, ofString, present]
  | int i => rfl
  | absent => rfl

end ParamValue

namespace NameMap

variable {α β γ : Type}

/-- The same names with other values. -/
def map (f : α → β) (m : NameMap α) : NameMap β :=
  ⟨m.entries.map fun e => (e.1, f e.2), List.pairwise_map.2 m.sorted⟩

theorem map_id (m : NameMap α) : m.map id = m := by
  cases m
  simp [map]

theorem mapM_entries {read : β → Option γ} {write : α → β} {kept : α → γ}
    (each : ∀ v, read (write v) = some (kept v)) (m : NameMap α) :
    ((m.entries.map fun e => (e.1, write e.2)).mapM fun e => (read e.2).map fun v => (e.1, v)) =
      some (m.map kept).entries := by
  refine mapM_map_eq_pure (fun e => ?_) m.entries
  rw [each]
  rfl

end NameMap

namespace ParameterSet

def document (p : ParameterSet) : Document := .table (p.entries.map fun e => (e.1, e.2.document))

theorem spells_document (p : ParameterSet) : Spells (writeSet p) p.document :=
  spells_table (forall₂_spellsEntry_map ParamValue.spells_document p.entries)

theorem ofDocument?_document (p : ParameterSet) :
    ofDocument? p.document = some (p.map ParamValue.readBack) := by
  have entries := NameMap.mapM_entries ParamValue.ofDocument?_document p
  simp only [ofDocument?, document, Document.entries?, Option.bind_eq_bind, Option.bind_some, entries,
    NameMap.ofList_entries]

end ParameterSet

namespace Validators

def document (v : Validators) : Document := .table (v.entries.map fun e => (e.1, .ofText e.2))

theorem spells_document (v : Validators) : Spells (writeTexts v) v.document :=
  spells_table (forall₂_spellsEntry_map spells_text v.entries)

theorem ofDocument?_document (v : Validators) : ofDocument? v.document = some v := by
  have each (s : String) : (Document.ofText s).text? = some (id s) := rfl
  have entries := NameMap.mapM_entries each v
  simp only [ofDocument?, document, Document.entries?, Option.bind_eq_bind, Option.bind_some, entries,
    NameMap.ofList_entries, NameMap.map_id]

end Validators

/-! Routes and files. What may be missing is left out where it is. -/

theorem Json.forall₂_spellsEntry_toList (name : String) (given : Option String) :
    List.Forall₂ SpellsEntry (given.toList.map fun s => (name, writeText s))
      (given.toList.map fun s => (name, .ofText s)) :=
  forall₂_map_map (fun s => ⟨rfl, spells_text s⟩) given.toList

@[simp] theorem Document.text?_ofText (s : String) : (Document.ofText s).text? = some s := rfl

theorem orElse_some {α : Type} (missing : α) (read : Document → Option α) (d : Document) :
    orElse missing read (some d) = read d := rfl

theorem orElse_optionalText? (given : Option String) :
    orElse none Document.optionalText? (given.map .ofText) = some given := by cases given <;> rfl

namespace Declaration

/-- The route as it is read back. -/
def readBack (d : Declaration) : Declaration := { d with defaults := d.defaults.map ParamValue.readBack }

def document (d : Declaration) : Document :=
  .table <|
    ("pattern", .ofText d.pattern) :: (d.aliasName.toList.map fun a => ("alias", .ofText a)) ++
    [("defaults", d.defaults.document), ("validators", Validators.document d.validators)]

theorem spells_document (d : Declaration) : Spells (RouteFile.writeDeclaration d) d.document := by
  have aliasName := forall₂_spellsEntry_toList "alias" d.aliasName
  have defaults := d.defaults.spells_document
  have validators := Validators.spells_document d.validators
  exact spells_table <| .cons ⟨rfl, spells_text d.pattern⟩ <|
    List.rel_append aliasName (.cons ⟨rfl, defaults⟩ (.cons ⟨rfl, validators⟩ .nil))

theorem fields?_document (d : Declaration) :
    RecordForm.positional.fields? ["pattern", "alias", "defaults", "validators"] d.document =
      some [some (.ofText d.pattern), d.aliasName.map .ofText, some d.defaults.document,
        some (Validators.document d.validators)] := by
  rw [document]
  cases d.aliasName <;> simp [RecordForm.fields?, Document.entries?, lookup_cons_eq]

theorem ofDocument?_document (d : Declaration) :
    ofDocument? .positional d.document = some d.readBack := by
  have defaults := d.defaults.ofDocument?_document
  have validators := Validators.ofDocument?_document d.validators
  rw [ofDocument?, d.fields?_document]
  simp only [Option.bind_eq_bind, Option.bind_some, orElse_optionalText?, orElse_some, Document.text?_ofText,
    defaults, validators]
  rfl

end Declaration

namespace RouteFile

/-- The file as it is read back. -/
def readBack (f : RouteFile) : RouteFile := { f with routes := f.routes.map Declaration.readBack }

def document (f : RouteFile) : Document :=
  .table <|
    (f.mount.toList.map fun t => ("prefix", .ofText t)) ++
    (f.scriptName.toList.map fun t => ("script_name", .ofText t)) ++
    [("routes", .list (f.routes.map Declaration.document))]

theorem spells_document (f : RouteFile) : Spells f.toJson.toList f.document := by
  have mount := forall₂_spellsEntry_toList "prefix" f.mount
  have scriptName := forall₂_spellsEntry_toList "script_name" f.scriptName
  have routes := forall₂_map_map Declaration.spells_document f.routes
  rw [toJson, String.toList_ofList]
  exact spells_table <|
    List.rel_append (List.rel_append mount scriptName) (.cons ⟨rfl, spells_list routes⟩ .nil)

theorem fields?_document (f : RouteFile) :
    RecordForm.positional.fields? ["prefix", "script_name", "routes"] f.document =
      some [f.mount.map .ofText, f.scriptName.map .ofText,
        some (.list (f.routes.map Declaration.document))] := by
  rw [document]
  cases f.mount <;> cases f.scriptName <;> simp [RecordForm.fields?, Document.entries?, lookup_cons_eq]

theorem ofDocument?_document (f : RouteFile) : ofDocument? .positional f.document = some f.readBack := by
  have routes : (f.routes.map Declaration.document).mapM (Declaration.ofDocument? .positional) =
      some (f.routes.map Declaration.readBack) := mapM_map_eq_pure Declaration.ofDocument?_document f.routes
  rw [ofDocument?, f.fields?_document]
  simp only [Option.bind_eq_bind, Option.bind_some, orElse_optionalText?, orElse_some, Document.items?, routes]
  rfl

/-- A file that is written in JSON is read back, whatever texts and integers it holds. Only a default that
is an empty text comes back as no value; no integer turns into a text and no text into an integer. -/
theorem ofText?_toJson (f : RouteFile) : RouteFile.ofText? .json f.toJson = some f.readBack := by
  have read : TextFormat.json.read? f.toJson = some f.document := read?_of_spells f.spells_document
  rw [ofText?, read]
  exact f.ofDocument?_document

end RouteFile

end UrlRouting
