import Mathlib.Data.List.Forall2
import RestRoutes.Api.Builder
import RestRoutes.Proofs.Value

/-! Documents that differ only in what is not read of them.  Each object of a document has a role, and
under each role a few names are read; two objects are alike in a role when what they have under those
names is alike, whatever else they hold and in whatever order. -/

namespace RestRoutes.Api

/-! ### What is read -/

/-- What an object of a document describes. -/
inductive Role
  | document
  | pathItem
  | operation
  | parameter
  | itemType
  | schema
  | requestBody
  | mediaType
  | response
deriving DecidableEq, Repr

/-- How a value is read: as it is, as an object, as a list of objects, or as objects under the keys
of a map. -/
inductive Form
  | whole
  | object (r : Role)
  | list (r : Role)
  | entries (r : Role)
deriving DecidableEq, Repr

namespace Role

/-- The names of which it matters whether an object has them at all. -/
def marks : Role → List String
  | document => ["swagger", "openapi"]
  | parameter | schema | requestBody => ["$ref"]
  | _ => []

/-- The names that are read of an object, which may be a reference, and how the values under them
are read. -/
def fields (version : Document.Version) (isReference : Bool) : Role → List (String × Form)
  | document =>
    ("paths", .entries pathItem) ::
      match version with
      | .swagger => [("basePath", .whole)]
      | _ => [("servers", .whole)]
  | pathItem =>
    ("parameters", .list parameter) :: Method.all.map fun m => (m.name, .object operation)
  | operation =>
    [("operationId", .whole), ("description", .whole), ("parameters", .list parameter)] ++
      match version with
      | .swagger => [("consumes", .whole), ("produces", .whole)]
      | _ => [("requestBody", .object requestBody), ("responses", .entries response)]
  | parameter =>
    [("name", .whole), ("in", .whole)] ++
      if isReference then []
      else
        [("required", .whole), ("description", .whole)] ++
          match version with
          | .swagger =>
            [("type", .whole), ("enum", .whole), ("collectionFormat", .whole),
              ("default", .whole), ("items", .object itemType)]
          | _ => [("schema", .object schema), ("style", .whole), ("explode", .whole)]
  | itemType => [("type", .whole)]
  | schema =>
    if isReference then []
    else
      [("type", .whole), ("description", .whole), ("enum", .whole), ("default", .whole),
        ("items", .object schema), ("properties", .entries schema)]
  | requestBody =>
    if isReference then []
    else [("required", .whole), ("description", .whole), ("content", .entries mediaType)]
  | mediaType => [("schema", .object schema)]
  | response => [("description", .whole), ("content", .entries mediaType)]

end Role

/-- Two values are alike in a form.  If references are taken as blind, a reference that can be read is
alike to a schema that is absent or says nothing. -/
inductive Alike (version : Document.Version) (blind : Bool) : Form → Value → Value → Prop
  | same (form : Form) (v : Value) : Alike version blind form v v
  | object {r : Role} {es fs : List (Value × Value)}
    (marks : ∀ name ∈ r.marks, Value.lookup name es = Value.lookup name fs)
    (fields : ∀ name form,
      (name, form) ∈ r.fields version (Value.lookup "$ref" es).isSome →
        Alike version blind form ((Value.map es).get name) ((Value.map fs).get name)) :
    Alike version blind (.object r) (.map es) (.map fs)
  | item {r : Role} {v w : Value} {vs ws : List Value}
    (head : Alike version blind (.object r) v w)
    (tail : Alike version blind (.list r) (.list vs) (.list ws)) :
    Alike version blind (.list r) (.list (v :: vs)) (.list (w :: ws))
  | entry {r : Role} {k v w : Value} {es fs : List (Value × Value)}
    (head : Alike version blind (.object r) v w)
    (tail : Alike version blind (.entries r) (.map es) (.map fs)) :
    Alike version blind (.entries r) (.map ((k, v) :: es)) (.map ((k, w) :: fs))
  | reference {v w target : Value} {text : String} (taken : blind = true)
    (found : v.get? "$ref" = some target) (readable : target.textOrFail = .ok text)
    (nothing : w = .null ∨ w = .map []) : Alike version blind (.object .schema) v w

namespace Alike

variable {version : Document.Version} {blind : Bool} {r : Role} {v w : Value}

/-! ### What alike values have in common -/

theorem eq (h : Alike version blind .whole v w) : v = w := by
  cases h
  rfl

theorem isMap_eq (h : Alike version blind (.object r) v w) (hRole : r ≠ .schema) :
    v.isMap = w.isMap := by
  cases h with
  | same => rfl
  | object => rfl
  | reference => exact absurd rfl hRole

theorem mark (h : Alike version blind (.object r) v w) (hRole : r ≠ .schema) {name : String}
    (hName : name ∈ r.marks) : v.get? name = w.get? name := by
  cases h with
  | same => rfl
  | object marks _ => exact marks name hName
  | reference => exact absurd rfl hRole

theorem get (h : Alike version blind (.object r) v w) (hRole : r ≠ .schema) {name : String}
    {form : Form} (hName : (name, form) ∈ r.fields version (v.get? "$ref").isSome) :
    Alike version blind form (v.get name) (w.get name) := by
  cases h with
  | same => exact .same form _
  | object _ fields => exact fields name form hName
  | reference => exact absurd rfl hRole

theorem get_eq (h : Alike version blind (.object r) v w) (hRole : r ≠ .schema) {name : String}
    (hName : (name, .whole) ∈ r.fields version (v.get? "$ref").isSome) :
    v.get name = w.get name :=
  (h.get hRole hName).eq

theorem items {v w : Value} (h : Alike version blind (.list r) v w) :
    List.Forall₂ (Alike version blind (.object r)) v.items w.items := by
  -- The induction is on the list, so the form it is read in has to be free.
  generalize hForm : Form.list r = form at h
  induction h with
  | same form v => exact List.forall₂_same.mpr fun x _ => .same _ x
  | item head tail _ ih =>
    cases hForm
    exact .cons head (ih rfl)
  | object | entry | reference => cases hForm

/-- Entries under the same keys, whose values are alike. -/
def Entries (version : Document.Version) (blind : Bool) (r : Role)
    (es fs : List (Value × Value)) : Prop :=
  List.Forall₂ (fun e f => e.1 = f.1 ∧ Alike version blind (.object r) e.2 f.2) es fs

theorem entries {v w : Value} (h : Alike version blind (.entries r) v w) :
    Entries version blind r v.entries w.entries := by
  generalize hForm : Form.entries r = form at h
  induction h with
  | same form v => exact List.forall₂_same.mpr fun e _ => ⟨rfl, .same _ e.2⟩
  | entry head tail _ ih =>
    cases hForm
    exact .cons ⟨rfl, head⟩ (ih rfl)
  | object | item | reference => cases hForm

/-! ### Entries that are alike -/

/-- Objects that are no references are alike when they are under every name that is read. -/
theorem of_fields {es fs : List (Value × Value)}
    (marks : ∀ name ∈ r.marks, Value.lookup name es = Value.lookup name fs)
    (hRef : Value.lookup "$ref" es = none)
    (fields : ∀ field ∈ r.fields version false,
      Alike version blind field.2 ((Value.map es).get field.1) ((Value.map fs).get field.1)) :
    Alike version blind (.object r) (.map es) (.map fs) := by
  refine .object marks fun name form hRead => ?_
  rw [hRef] at hRead
  exact fields (name, form) hRead

def isRead (version : Document.Version) (r : Role) : Value → Bool :=
  Value.isOneOf (r.marks ++ (r.fields version false).map Prod.fst)

theorem fields_subset {b : Bool} {field : String × Form} (h : field ∈ r.fields version b) :
    field ∈ r.fields version false := by
  cases b with
  | false => exact h
  | true =>
    cases r with
    | parameter =>
      rcases List.mem_append.mp h with hName | hRest
      · exact List.mem_append_left _ hName
      · cases hRest
    | schema | requestBody => cases h
    | _ => exact h

/-- Objects are alike when the same entries, in any order, have keys that are read. -/
theorem of_perm {es fs : List (Value × Value)}
    (h : (es.filter (isRead version r ·.1)).Perm (fs.filter (isRead version r ·.1)))
    (hDistinct : ((es.filter (isRead version r ·.1)).map Prod.fst).Nodup) :
    Alike version blind (.object r) (.map es) (.map fs) := by
  have hLookup (name : String) (hRead : isRead version r (.str name) = true) :
      Value.lookup name es = Value.lookup name fs := by
    rw [← Value.lookup_filter_of_key hRead es, ← Value.lookup_filter_of_key hRead fs]
    exact Value.lookup_perm h hDistinct name
  refine .object (fun name hName => ?_) fun name form hName => ?_
  · refine hLookup name ?_
    simp only [isRead, Value.isOneOf, List.contains_iff_mem, List.mem_append]
    exact .inl hName
  · have hSame : (Value.map es).get name = (Value.map fs).get name := by
      have hFound := hLookup name <| by
        simp only [isRead, Value.isOneOf, List.contains_iff_mem, List.mem_append]
        exact .inr (List.mem_map_of_mem (f := Prod.fst) (fields_subset hName))
      rw [Value.get, Value.get, Value.get?, Value.get?, hFound]
    rw [hSame]
    exact .same form _

end Alike

end RestRoutes.Api
