import FrontDoor.Dict
import FrontDoor.Error.Basic
import FrontDoor.Text.Quoted

namespace FrontDoor

variable {ε : Type}

structure OwnedEndpoint (ε : Type) where
  owner : String
  endpoint : ε

abbrev EndpointTable (ε : Type) := Dict (OwnedEndpoint ε)

namespace EndpointTable

def owner? (t : EndpointTable ε) (path : String) : Option String := (t.get? path).map (·.owner)

def endpoint? (t : EndpointTable ε) (path : String) : Option ε := (t.get? path).map (·.endpoint)

def endpoints (t : EndpointTable ε) : Dict ε := t.mapValues fun _ e ↦ e.endpoint

def add (t : EndpointTable ε) (pluginId path : String) (endpoint : ε) :
    Except PluginError (EndpointTable ε) :=
  match t.owner? path with
  | some existing => .error (.endpointConflict path pluginId existing)
  | none => .ok (t.insert path ⟨pluginId, endpoint⟩)

def addAll (pluginId : String) :
    List (String × ε) → EndpointTable ε → EndpointTable ε × Except PluginError Unit
  | [], t => (t, .ok ())
  | (path, endpoint) :: rest, t =>
    match t.add pluginId path endpoint with
    | .ok t' => addAll pluginId rest t'
    | .error e => (t, .error e)

def outline (t : EndpointTable ε) : String :=
  Text.Outline.map (t.entries.map fun e ↦
    (Text.quoted e.1, Text.Outline.option (some (Text.quoted e.2.owner))))

end EndpointTable

end FrontDoor
