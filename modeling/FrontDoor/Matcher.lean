import FrontDoor.Route.Scope
import FrontDoor.Text.Quoted

namespace FrontDoor

inductive Matcher where
  | all
  | path (path : String)
  | method (method : String)
  | pathAndMethod (path method : String)
  | under (trimmed : String)
  | custom (predicate : String → String → Bool)

namespace Matcher

instance : Inhabited Matcher := ⟨all⟩

def pathPrefix (path : String) : Matcher := under (Route.trimSlashes path)

def accepts (m : Matcher) (path method : String) : Bool :=
  match m with
  | all => true
  | .path expected => path == expected
  | .method expected => method == expected
  | pathAndMethod expectedPath expectedMethod => path == expectedPath && method == expectedMethod
  | under trimmed =>
    trimmed.isEmpty ||
      match Route.without? trimmed.toList path.toList with
      | some rest => rest.isEmpty || rest.head? == some '/'
      | none => false
  | custom predicate => predicate path method

def outline : Matcher → String
  | all => "Matcher::All"
  | .path expected => Text.Outline.tuple "Matcher::Path" [Text.quoted expected]
  | .method expected => Text.Outline.tuple "Matcher::Method" [Text.quoted expected]
  | .pathAndMethod p m =>
    Text.Outline.record "Matcher::PathAndMethod" [("path", Text.quoted p), ("method", Text.quoted m)]
  | under trimmed => Text.Outline.tuple "Matcher::PathPrefix" [Text.quoted trimmed]
  | custom _ => "Matcher::Custom(<fn>)"

end Matcher

end FrontDoor
