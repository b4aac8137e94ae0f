/-!
The calls that can be made over HTTP, and where.
-/
namespace GraphEngine.Http

inductive Route where
  | health
  | canCompute
  | compute
  | getScalar
  | hasInMemory
  | hasOnDisk
  | readFromDisk
deriving DecidableEq

namespace Route

def all : List Route :=
  [.health, .canCompute, .compute, .getScalar, .hasInMemory, .hasOnDisk, .readFromDisk]

def path : Route → String
  | .health => "/health"
  | .canCompute => "/can_compute"
  | .compute => "/compute"
  | .getScalar => "/get_scalar"
  | .hasInMemory => "/has_in_sphynx_memory"
  | .hasOnDisk => "/has_on_ordered_sphynx_disk"
  | .readFromDisk => "/read_from_ordered_sphynx_disk"

def method : Route → String
  | .health => "GET"
  | .canCompute | .compute | .getScalar | .hasInMemory | .hasOnDisk | .readFromDisk => "POST"

/-- Where something can be read, its headers can be asked for alone. -/
def accepts (route : Route) (method : String) : Bool :=
  method = route.method || (route.method = "GET" && method = "HEAD")

def ofPath? (path : String) : Option Route := all.find? (·.path = path)

/-- The name of the only field in the body of a request. -/
def fieldName : Route → String
  | .health => ""
  | .canCompute | .compute => "operation"
  | .getScalar | .hasInMemory | .hasOnDisk | .readFromDisk => "guid"

/-- The name of the only field in the body of an answer. -/
def answerName : Route → String
  | .health | .compute | .readFromDisk => ""
  | .canCompute => "can_compute"
  | .getScalar => "scalar"
  | .hasInMemory => "has_in_memory"
  | .hasOnDisk => "has_on_disk"

end Route
end GraphEngine.Http
