import Graft.Data
import Graft.Session.Request

set_option autoImplicit false

/-!
# Decoding requests and options

How options, imports, locators and requests are written down as data. A record may have fields that
nobody asks for. A list stands for a record whose fields have these items in order; fields that the
list is too short for are missing.
-/

namespace Graft

abbrev Decoder (α : Type) := Data → Option α

namespace Data

def text? : Decoder String
  | text s => some s
  | _ => none

def bool? : Decoder Bool
  | bool b => some b
  | _ => none

def list? {α : Type} (item : Decoder α) : Decoder (List α)
  | list items => items.mapM item
  | _ => none

/-- A value, or null for none. -/
def nullable {α : Type} (value : Decoder α) : Decoder (Option α)
  | null => some none
  | d => (value d).map some

/-- The value of a field, which may have several names but must be given only once. -/
def field? (fields : List (String × Data)) (names : List String) : Option (Option Data) :=
  match fields.filter fun f => names.contains f.1 with
  | [] => some none
  | [(_, d)] => some (some d)
  | _ => none

/-- The values of the fields with these names. Unless there may be a surplus, a list must not be longer
than there are names. -/
def fields? (surplus : Bool) (names : List (List String)) : Decoder (List (Option Data))
  | record fields => names.mapM (field? fields)
  | list items =>
    if !surplus && names.length < items.length then none
    else some (names.zipIdx.map fun (_, i) => items[i]?)
  | _ => none

/-- A field that must be there. -/
def required {α : Type} (value : Decoder α) (d : Option Data) : Option α := d.bind value

/-- A field that may be left out. -/
def orElse {α : Type} (default : α) (value : Decoder α) : Option Data → Option α
  | none => some default
  | some d => value d

end Data

open Data

def ImportSpec.decode : Decoder ImportSpec := fun d => do
  match ← fields? false [["module", "source"], ["default"], ["named"], ["namespace"]] d with
  | [path, defaultName, named, namespaceName] =>
    return { path := ← required text? path, defaultName := ← orElse none (nullable text?) defaultName
             named := ← orElse [] (list? text?) named
             namespaceName := ← orElse none (nullable text?) namespaceName }
  | _ => none

def Locator.decode : Decoder Locator := fun d => do
  match ← fields? false [["tag"], ["identifier"], ["content"]] d with
  | [tag, identifier, content] =>
    return { tag := ← required text? tag, identifier := ← orElse none (nullable text?) identifier
             content := ← orElse none (nullable text?) content }
  | _ => none

def StateVariable.decode : Decoder StateVariable := fun d => do
  match ← fields? false [["name"], ["setter"], ["initial_value"], ["component"]] d with
  | [name, setter, initialValue, component] =>
    return { name := ← required text? name, setter := ← required text? setter
             initialValue := ← required text? initialValue
             component := ← orElse none (nullable text?) component }
  | _ => none

def Effect.decode : Decoder Effect := fun d => do
  match ← fields? false [["body"], ["dependencies"], ["component"]] d with
  | [body, dependencies, component] =>
    return { body := ← required text? body
             dependencies := ← orElse none (nullable (list? text?)) dependencies
             component := ← orElse none (nullable text?) component }
  | _ => none

def InsertPosition.ofName? : String → Option InsertPosition
  | "before" => some .before
  | "after" => some .after
  | "start-of-children" => some .startOfChildren
  | "end-of-children" => some .endOfChildren
  | _ => none

/-- A position by its name, which may also be the only field of a record that says nothing more. -/
def InsertPosition.decode : Decoder InsertPosition
  | .text name => ofName? name
  | .record [(name, .null)] | .record [(name, .record [])] => ofName? name
  | _ => none

/-- A wrapper, whose fields stand among those of the request. -/
def Wrapper.decode : Decoder Wrapper
  | .list _ => none
  | d => do
    match ← fields? false [["component"], ["props"], ["import"]] d with
    | [component, props, source] =>
      return { component := ← required text? component, props := ← orElse none (nullable text?) props
               source := ← orElse none (nullable ImportSpec.decode) source }
    | _ => none

/-- The type of a request and what else is written in it. -/
def splitType : Data → Option (String × Data)
  | .record fields => do
    let type ← (← field? fields ["type"]).bind text?
    return (type, .record (fields.filter (·.1 != "type")))
  | .list (.text type :: items) => some (type, .list items)
  | _ => none

def Request.decode : Decoder Request := fun d => do
  let (type, d) ← splitType d
  let aim (target : Option Data) : Option Target := (required Locator.decode target).map .locate
  match type with
  | "add-import" => return .addImport (← ImportSpec.decode d)
  | "add-state" => return .addState (← StateVariable.decode d)
  | "add-effect" => return .addEffect (← Effect.decode d)
  | "wrap-element" => match ← fields? true [["target"]] d with
    | [target] => return .wrap (← aim target) (← Wrapper.decode d)
    | _ => none
  | "insert-markup" => match ← fields? false [["target"], ["position"], ["markup"]] d with
    | [target, position, markup] =>
      return .insert (← aim target) (← required InsertPosition.decode position) (← required text? markup)
    | _ => none
  | "delete-element" => match ← fields? false [["target"]] d with
    | [target] => return .delete (← aim target)
    | _ => none
  | "replace-text" => match ← fields? false [["search"], ["replace"]] d with
    | [search, replacement] => return .replace (← required text? search) (← orElse "" text? replacement)
    | _ => none
  | _ => none

def HookNames.decode (surplus : Bool) : Decoder HookNames := fun d => do
  let default : HookNames := {}
  match ← fields? surplus [["module"], ["state"], ["effect"]] d with
  | [path, state, effect] =>
    return ⟨← orElse default.path text? path, ← orElse default.state text? state,
      ← orElse default.effect text? effect⟩
  | _ => none

def SessionOptions.decode (surplus : Bool) : Decoder SessionOptions := fun d => do
  let default : SessionOptions := {}
  match ← fields? surplus [["hooks"], ["strict_parse"], ["validate_output"]] d with
  | [hooks, strictParse, validateOutput] =>
    return ⟨← orElse default.hooks (HookNames.decode surplus) hooks,
      ← orElse default.strictParse bool? strictParse, ← orElse default.validateOutput bool? validateOutput⟩
  | _ => none

end Graft
