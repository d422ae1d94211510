import AqlGateway.Json.Fields
import AqlGateway.Tree.Basic

/-!
# Trees as JSON

A tree is written as an object with its columns as keys, in their order; unset fields are `null`.

* `Tree.json` — the JSON of a tree;
* `Tree.ofJsonText?` — the tree of a JSON text. Only unset fields may be missing.
-/

namespace AqlGateway.Tree

def optionalJson {α : Type} (text : α → String) : Option α → Json
  | none => .null
  | some a => .string (text a)

/-- The fields of a tree as JSON, in the order of the columns. -/
def jsonFields (tree : Tree) : List Json :=
  [.string tree.id, .string tree.code, .string tree.speciesId, .string tree.locationId,
    optionalJson Date.text tree.plantingDate, .ofInt tree.ageYears.toInt, .real tree.heightMeters,
    .real tree.diameterCm, optionalJson Status.name tree.status, .ofInt tree.healthScore.toInt,
    .string tree.notes, .string tree.registeredBy, optionalJson Instant.fullText tree.createdAt,
    optionalJson Instant.fullText tree.updatedAt]

def json (tree : Tree) : Json := .object (columns.zip tree.jsonFields)

def required? {α : Type} (read? : JsonText → Option α) (field : Option JsonText) : Option α :=
  field.bind read?

/-- A field that may be unset. It may be missing where fields have keys. -/
def unset? {α : Type} (form : JsonText.Form) (read? : JsonText → Option α) :
    Option JsonText → Option (Option α)
  | none => if form = .byKey then some none else none
  | some tree => tree.optional? read?

def dateField? (tree : JsonText) : Option Date := tree.string?.bind Date.ofSpacedText?

def instantField? (tree : JsonText) : Option Instant := tree.string?.bind Instant.ofSpacedText?

def statusField? (tree : JsonText) : Option Status := tree.emptyVariant?.bind Status.ofWord?

def ofFields? (form : JsonText.Form) : List (Option JsonText) → Option Tree
  | [id, code, species, location, planting, age, height, diameter, status, health, notes,
      registered, created, updated] => do
    let id ← required? JsonText.string? id
    let code ← required? JsonText.string? code
    let speciesId ← required? JsonText.string? species
    let locationId ← required? JsonText.string? location
    let plantingDate ← unset? form dateField? planting
    let ageYears ← required? JsonText.int64? age
    let heightMeters ← required? JsonText.real? height
    let diameterCm ← required? JsonText.real? diameter
    let status ← unset? form statusField? status
    let healthScore ← required? JsonText.int64? health
    let notes ← required? JsonText.string? notes
    let registeredBy ← required? JsonText.string? registered
    let createdAt ← unset? form instantField? created
    let updatedAt ← unset? form instantField? updated
    pure ⟨id, code, speciesId, locationId, plantingDate, ageYears, heightMeters, diameterCm,
      status, healthScore, notes, registeredBy, createdAt, updatedAt⟩
  | _ => none

def ofJsonText? (s : String) : Option Tree := do
  let (form, fields) ← (← JsonText.read? s).fields? columns
  ofFields? form fields

end AqlGateway.Tree
