import RestRoutes.Descriptor
import RestRoutes.Destination
import RestRoutes.Filter
import RestRoutes.Text.Case

/-! The events of one operation: its method and path, what is known about it, a block for each
parameter, and its destination.  An event whose argument would be empty is left out, except that a
block always says whether its parameter is required. -/

namespace RestRoutes.Visit

open Api

/-- The event with a name and an argument, unless the argument is empty. -/
def field (name : String) (argument : Argument) : List Event :=
  if argument.isEmpty then [] else [⟨name, argument⟩]

/-- The argument for a text that may be missing. -/
def optional (text : Option String) : Argument := (text.map Argument.text).getD .null

/-- The fields inside the block of a parameter. -/
def blockFields (d : Descriptor) : List Event :=
  field "name" (.text d.name) ++
  field "type" ((d.location.map Argument.location).getD .null) ++
  field "dataType" (optional d.dataType) ++
  field "allowableValues" (.texts d.allowableValues) ++
  field "collectionFormat" ((d.collectionFormat.map Argument.format).getD .null) ++
  field "defaultValue" (optional d.defaultValue) ++
  field "arrayType" (optional d.arrayType) ++
  ⟨"required", .bool d.required⟩ ::
  field "description" (optional d.description)

def block (d : Descriptor) : List Event :=
  .bare "param" :: (blockFields d ++ [.bare "endParam"])

def header (method : String) (op : Operation) : List Event :=
  ⟨method, .text op.path⟩ ::
    (field "id" (optional op.id?) ++ field "description" (optional op.description?) ++
      field "consumes" (.texts op.consumes) ++ field "produces" (.texts op.produces))

def isForm (mediaType : String) : Bool := Text.mentions "form" mediaType

/-- The properties of the forms that a body may be. -/
def formProperties (content : OpenApi.Content) : List (String × Schema) :=
  content.flatMap fun (mediaType, schema) =>
    if isForm mediaType then (schema.bind Schema.properties?).getD [] else []

/-- The descriptors that stand for a body: one for each property of its forms, or one for the whole
where there are none. -/
def bodyDescriptors (body : OpenApi.RequestBody) : List Descriptor :=
  match formProperties body.content with
  | [] => [.ofBody body.description]
  | properties => properties.map fun (name, schema) => .ofProperty name schema body.required

/-- The descriptors of what an operation takes besides its parameters. -/
def extraDescriptors : Operation → List Descriptor
  | .swagger _ => []
  | .openApi op => (op.requestBody.map bodyDescriptors).getD []

def emitAll (events : List Event) : Run Unit := ⟨events, [], .ok ()⟩

/-- Emits the blocks of the parameters, up to the first that is refused. -/
def emitParameters : List (Logged Descriptor) → Run Unit
  | [] => pure ()
  | parameter :: rest => do
    let descriptor ← Run.ofLogged parameter
    emitAll (block descriptor)
    emitParameters rest

def emitOperation (destination : Destination) (method : String) (op : Operation) : Run Unit := do
  emitAll (header method op)
  emitParameters (Descriptor.ofOperation op)
  emitAll ((extraDescriptors op).flatMap block)
  let target ← Run.ofLogged (destination op)
  Run.emit ⟨"to", target⟩

def methodName (method : String) : String := String.ofList (Text.lowerText method.toList)

def idText (id : Option String) : String := id.getD "None"

/-- Emits an operation that the filter accepts.  The answer tells whether it does. -/
def visit (filter : Filter) (destination : Destination) (method : String) (op : Operation) :
    Run Bool := do
  if ← Run.ofExcept (filter.accept op.id?) then
    emitOperation destination (methodName method) op
    return true
  else
    Run.record .debug ("Filtered out operation '" ++ idText op.id? ++ "'")
    return false

end RestRoutes.Visit
