/-!
# Topic parameters

Parameters are bound by name.  A later binding takes the place of an earlier
one, also when it binds the name to nothing, so requests can bind their optional
fields directly.
-/

namespace DeviceLink

structure TopicParams where
  bindings : List (String × Option String) := []
deriving DecidableEq, Repr

namespace TopicParams

def empty : TopicParams := ⟨[]⟩

/-- Binds a name where it already stands, or at the end. -/
def bindIn (name : String) (value : Option String) :
    List (String × Option String) → List (String × Option String)
  | [] => [(name, value)]
  | (n, v) :: rest => if n = name then (n, value) :: rest else (n, v) :: bindIn name value rest

def bind (params : TopicParams) (name : String) (value : Option String) : TopicParams :=
  ⟨bindIn name value params.bindings⟩

def ofList (l : List (String × Option String)) : TopicParams :=
  l.foldl (fun params b => params.bind b.1 b.2) empty

def get? (params : TopicParams) (name : String) : Option String :=
  (params.bindings.lookup name).join

end TopicParams

class TopicBinding (α : Type) where
  topicParams : α → TopicParams

instance : TopicBinding TopicParams := ⟨id⟩

/-- A request: the address goes into its topic, the body into its document. -/
structure Request (Address Body : Type) where
  address : Address
  body : Body

instance {Address Body : Type} [TopicBinding Address] : TopicBinding (Request Address Body) :=
  ⟨fun request => TopicBinding.topicParams request.address⟩

end DeviceLink
