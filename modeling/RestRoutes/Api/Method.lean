/-! The vocabulary of API descriptions: request methods, parameter locations and the encodings of
array values. -/

namespace RestRoutes.Api

/-- A request method that a path can have an operation for. -/
inductive Method
  | get
  | put
  | post
  | delete
  | options
  | head
  | patch
  | trace
deriving DecidableEq, Repr

namespace Method

/-- All methods, in the order their operations are taken in. -/
def all : List Method := [get, put, post, delete, options, head, patch, trace]

def name : Method → String
  | get => "get"
  | put => "put"
  | post => "post"
  | delete => "delete"
  | options => "options"
  | head => "head"
  | patch => "patch"
  | trace => "trace"

def capitalName : Method → String
  | get => "GET"
  | put => "PUT"
  | post => "POST"
  | delete => "DELETE"
  | options => "OPTIONS"
  | head => "HEAD"
  | patch => "PATCH"
  | trace => "TRACE"

def ofName? (name : String) : Option Method := all.find? fun m => m.name == name

end Method

/-- Where a parameter is taken from. -/
inductive Location
  | body
  | formData
  | header
  | path
  | query
deriving DecidableEq, Repr

namespace Location

def all : List Location := [body, formData, header, path, query]

def name : Location → String
  | body => "body"
  | formData => "formData"
  | header => "header"
  | path => "path"
  | query => "query"

def constant : Location → String
  | body => "ParameterLocation.BODY"
  | formData => "ParameterLocation.FORM_DATA"
  | header => "ParameterLocation.HEADER"
  | path => "ParameterLocation.PATH"
  | query => "ParameterLocation.QUERY"

def ofName? (name : String) : Option Location := all.find? fun l => l.name == name

end Location

/-- How the items of an array value are put into one text. -/
inductive CollectionFormat
  | csv
  | ssv
  | tsv
  | pipes
  | multi
deriving DecidableEq, Repr

namespace CollectionFormat

def all : List CollectionFormat := [csv, ssv, tsv, pipes, multi]

def name : CollectionFormat → String
  | csv => "csv"
  | ssv => "ssv"
  | tsv => "tsv"
  | pipes => "pipes"
  | multi => "multi"

def constant : CollectionFormat → String
  | csv => "CollectionFormat.CSV"
  | ssv => "CollectionFormat.SSV"
  | tsv => "CollectionFormat.TSV"
  | pipes => "CollectionFormat.PIPES"
  | multi => "CollectionFormat.MULTI"

def ofName? (name : String) : Option CollectionFormat := all.find? fun f => f.name == name

end CollectionFormat

end RestRoutes.Api
