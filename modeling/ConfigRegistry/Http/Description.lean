import ConfigRegistry.Json.Value

/-!
Descriptions of interfaces for programs that read them: which operations there are at which paths,
what they take and what they answer. The names of members and words are part of the format.
-/
namespace ConfigRegistry.Http.Description

open Json

inductive Shape where
  | text
  | time
  | flag
  /-- A number that is not negative, with its width in bits. -/
  | number (bits : Nat)
  | list (item : Shape)
  | words (words : List String)
  /-- The shape that has this name in the description. -/
  | named (name : String)
deriving Repr

def Shape.members (optional : Bool) : Shape → List (String × Value)
  | .text => [("type", kind optional "string")]
  | .time => [("type", kind optional "string"), ("format", .string "date-time")]
  | .flag => [("type", kind optional "boolean")]
  | .number bits =>
    [("type", kind optional "integer"), ("format", .string ("int" ++ toString bits)),
      ("minimum", .natural 0)]
  | .list item => [("type", kind optional "array"), ("items", .object (item.members false))]
  | .words all => [("type", kind optional "string"), ("enum", .array (all.map .string))]
  | .named name =>
    let reference := ("$ref", Value.string ("#/components/schemas/" ++ name))
    if optional then
      [("oneOf", .array [.object [("type", .string "null")], .object [reference]])]
    else [reference]
where
  kind (optional : Bool) (name : String) : Value :=
    if optional then .array [.string name, .string "null"] else .string name

def Shape.toJson (s : Shape) : Value := .object (s.members false)

/-- A member that stands only if there is a text for it. -/
def note? (note : String) : List (String × Value) :=
  if note.isEmpty then [] else [("description", .string note)]

/-- Whether a member has to be there: an optional one may be missing or null, one with a default may
only be missing. -/
inductive Presence where
  | required
  | optional
  | defaulted
deriving DecidableEq, Repr

structure Member where
  name : String
  shape : Shape
  presence : Presence
  note : String
deriving Repr

def Member.toJson (m : Member) : Value :=
  .object (m.shape.members (m.presence == .optional) ++ note? m.note)

/-- What a name stands for: an object of these members, or another shape. -/
inductive Definition where
  | members (members : List Member)
  | shape (shape : Shape)
deriving Repr

def Definition.toJson (note : String) : Definition → Value
  | .shape s => .object (s.members false ++ note? note)
  | .members ms =>
    let required := (ms.filter (·.presence == .required)).map fun m => Value.string m.name
    .object ([("type", .string "object"),
        ("properties", .object (ms.map fun m => (m.name, m.toJson)))]
      ++ (if required.isEmpty then [] else [("required", .array required)]) ++ note? note)

/-- Where a parameter stands. -/
inductive Place where
  | path
  | query
deriving DecidableEq, Repr

def Place.name : Place → String
  | .path => "path"
  | .query => "query"

structure Parameter where
  name : String
  place : Place
  required : Bool
  shape : Shape
  note : String
deriving Repr

def Parameter.toJson (p : Parameter) : Value :=
  .object ([("name", .string p.name), ("in", .string p.place.name),
    ("required", .bool p.required), ("schema", p.shape.toJson)] ++ note? p.note)

/-- Content of a media type, with the shape of its values if it is known. -/
structure Content where
  mediaType : String
  shape : Option Shape
deriving Repr

def Content.toJson (c : Content) : Value :=
  .object [(c.mediaType, .object ((c.shape.map fun s => ("schema", s.toJson)).toList))]

/-- What an operation takes as its body. -/
structure Input where
  content : Content
  required : Bool
  note : String
deriving Repr

def Input.toJson (i : Input) : Value :=
  .object ([("content", i.content.toJson)]
    ++ (if i.required then [("required", .bool true)] else []) ++ note? i.note)

/-- An answer of an operation. -/
structure Reply where
  status : Nat
  note : String
  content : Option Content
deriving Repr

def Reply.toJson (r : Reply) : Value :=
  .object ((r.content.map fun c => ("content", c.toJson)).toList ++ note? r.note)

structure Operation where
  method : String
  name : String
  topic : String
  parameters : List Parameter
  input : Option Input
  replies : List Reply
  /-- The scheme by which callers prove who they are. -/
  security : Option String
deriving Repr

def Operation.toJson (o : Operation) : Value :=
  .object ([("tags", .array [.string o.topic]), ("operationId", .string o.name),
      ("responses", .object (o.replies.map fun r => (toString r.status, r.toJson)))]
    ++ (if o.parameters.isEmpty then []
      else [("parameters", .array (o.parameters.map Parameter.toJson))])
    ++ (o.input.map fun i => ("requestBody", i.toJson)).toList
    ++ (o.security.map fun s =>
      ("security", Value.array [.object [(s, .array [])]])).toList)

def placeholder (name : String) : String := "\x7b" ++ name ++ "\x7d"

end ConfigRegistry.Http.Description

namespace ConfigRegistry.Http

open Json

structure Description where
  title : String
  version : String
  note : String
  /-- Topics of operations and what they are about. -/
  topics : List (String × String)
  /-- Shapes by their names, each with a note. -/
  definitions : List (String × String × Description.Definition)
  /-- The scheme by which callers prove who they are. -/
  securityScheme : String
  operations : List (String × List Description.Operation)
deriving Repr

namespace Description

def formatVersion : String := "3.1.0"

def toJson (d : Description) : Value :=
  .object [("openapi", .string formatVersion),
    ("info", .object [("title", .string d.title), ("description", .string d.note),
      ("license", .object [("name", .string "")]), ("version", .string d.version)]),
    ("paths", .object (d.operations.map fun (path, operations) =>
      (path, .object (operations.map fun o => (o.method, o.toJson))))),
    ("components", .object [
      ("schemas", .object (d.definitions.map fun (name, note, definition) =>
        (name, definition.toJson note))),
      ("securitySchemes", .object [(d.securityScheme,
        .object [("type", .string "http"), ("scheme", .string "bearer")])])]),
    ("tags", .array (d.topics.map fun (name, note) =>
      .object [("name", .string name), ("description", .string note)]))]

end Description

end ConfigRegistry.Http
