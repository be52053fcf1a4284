import FlowCheck.Text.Upper
import FlowCheck.Value

/-!
# API descriptions

The part of an OpenAPI description that workflows use: its operations, each under a path and a
method, with their parameters. Paths keep the order of the document; the operations of a path are
visited in the order of `Method.all`.
-/

namespace FlowCheck

/-- The methods that an operation can have. -/
inductive Method where
  | get | post | put | delete | patch | head | options | trace
deriving DecidableEq, Inhabited

namespace Method

/-- All methods, in the order in which operations are searched and listed. -/
def all : List Method :=
  [.get, .post, .put, .delete, .patch, .head, .options, .trace]

/-- The methods that a flow graph reports. -/
def reported : List Method :=
  [.get, .post, .put, .delete, .patch, .head, .options]

/-- The name of a method, in upper case. -/
def name : Method → String
  | .get => "GET"
  | .post => "POST"
  | .put => "PUT"
  | .delete => "DELETE"
  | .patch => "PATCH"
  | .head => "HEAD"
  | .options => "OPTIONS"
  | .trace => "TRACE"

/-- The method with a name that is already in upper case. -/
def ofName? (name : String) : Option Method :=
  all.find? fun method => method.name == name

/-- The method with a name in any case. -/
def ofText? (text : String) : Option Method :=
  ofName? (Text.upper text)

/-- A method is found under its name. -/
@[simp]
theorem ofName?_name (method : Method) : ofName? method.name = some method := by
  cases method <;> decide

end Method

/-- A parameter that an operation declares. -/
structure ApiParameter where
  /-- The name. -/
  name : String
  /-- Where the parameter is sent. -/
  location : String
  /-- A request without the parameter is not valid. -/
  required : Bool
  /-- The description. -/
  description : Value
deriving Inhabited

/-- What tells the parameters of an operation apart: name and location. -/
def ApiParameter.key (parameter : ApiParameter) : String × String :=
  (parameter.name, parameter.location)

/-- An operation. -/
structure Operation where
  /-- The operation id, if any. -/
  operationId : Value
  /-- The summary. -/
  summary : Value
  /-- The description. -/
  description : Value
  /-- The parameters: the operation's own ones, then those shared by its path. -/
  parameters : List ApiParameter
  /-- The request body. -/
  requestBody : Value
  /-- The responses. -/
  responses : Value
deriving Inhabited

/-- The first parameter with a name and, if one is asked for, a location. -/
def Operation.parameter? (operation : Operation) (name : String) (location : Option String) :
    Option ApiParameter :=
  operation.parameters.find? fun parameter =>
    parameter.name == name && location.all (parameter.location == ·)

/-- What stands under a path. -/
structure PathItem where
  /-- The operations, at most one for each method. -/
  operations : List (Method × Operation)
  /-- The parameters that all operations of the path share. -/
  parameters : List ApiParameter
deriving Inhabited

/-- The operation with a method. -/
def PathItem.operation? (item : PathItem) (method : Method) : Option Operation :=
  item.operations.lookup method

/-- An API description. -/
structure Api where
  /-- The version of the format. -/
  version : String
  /-- The title of the interface. -/
  title : String
  /-- The version of the interface. -/
  release : String
  /-- The paths in document order, each once. -/
  paths : List (String × PathItem)
deriving Inhabited

/-- An operation with the path and the method under which it stands. -/
structure Endpoint where
  /-- The path. -/
  path : String
  /-- The method. -/
  method : Method
  /-- The operation. -/
  operation : Operation
deriving Inhabited

namespace Api

/-- The endpoints of a path, in the order of the methods. -/
def pathEndpoints (methods : List Method) (path : String) (item : PathItem) : List Endpoint :=
  methods.filterMap fun method =>
    (item.operation? method).map fun operation => ⟨path, method, operation⟩

/-- The endpoints, path by path in document order and within a path in the order of the
methods. -/
def endpoints (api : Api) (methods : List Method) : List Endpoint :=
  api.paths.flatMap fun entry => pathEndpoints methods entry.1 entry.2

/-- The first endpoint with an operation id. -/
def byId? (api : Api) (id : String) (methods : List Method) : Option Endpoint :=
  (api.endpoints methods).find? fun endpoint => endpoint.operation.operationId.isStr id

/-- The path item under a path. -/
def pathItem? (api : Api) (path : String) : Option PathItem :=
  api.paths.lookup path

/-- The operation under a path with a method. -/
def operation? (api : Api) (path : String) (method : Method) : Option Operation :=
  (api.pathItem? path).bind (·.operation? method)

/-- The operation ids that are given, in the order of the endpoints. -/
def operationIds (api : Api) : List Value :=
  ((api.endpoints Method.all).map (·.operation.operationId)).filter Value.isGiven

end Api

end FlowCheck
