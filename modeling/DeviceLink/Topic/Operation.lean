import DeviceLink.Text.Quoted
import DeviceLink.Topic.Params
import DeviceLink.Topic.Validation

/-!
# Operations and their topics

An operation has a template for its base topic.  The template is a topic whose
levels are either literal or a placeholder, a name between braces, and building
a topic puts a value in the place of each placeholder.  Values never hold a
level separator, so the levels of the topic are the levels of the template and
the values can be read back from it.
-/

namespace DeviceLink

structure Operation where
  service : String
  name : String
  template : String
  kind : OperationKind
deriving DecidableEq, Repr

/-- What stands in one level of a template. -/
inductive Segment
  | literal (s : String)
  | placeholder (name : String)
deriving DecidableEq, Repr

/-- Splits at every separator; there is always one part more than separators. -/
def splitLevels : List Char → List (List Char)
  | [] => [[]]
  | c :: rest =>
    if c = '/' then [] :: splitLevels rest
    else
      match splitLevels rest with
      | [] => [[c]]
      | level :: levels => (c :: level) :: levels

def levels (s : String) : List String := (splitLevels s.toList).map String.ofList

def joinLevels : List String → String
  | [] => ""
  | [level] => level
  | level :: rest => level ++ "/" ++ joinLevels rest

def isBrace (c : Char) : Bool := c = '\x7b' || c = '\x7d'

/-- What stands between an opening brace at the front and a closing one at the
end. -/
def insideBraces? (s : String) : Option String :=
  match s.toList with
  | '\x7b' :: rest => if rest.getLast? = some '\x7d' then some (String.ofList rest.dropLast) else none
  | _ => none

namespace Segment

/-- Reads one level of a template; braces may only enclose a whole level and a
name that is not empty. -/
def ofText? (s : String) : Option Segment :=
  if hasChar isBrace s then
    match insideBraces? s with
    | some name => if name = "" || hasChar isBrace name then none else some (.placeholder name)
    | none => none
  else some (.literal s)

end Segment

namespace Operation

def display (op : Operation) : String := op.service ++ "::" ++ op.name

def supports (op : Operation) (role : TopicRole) : Bool := op.kind.supports role

/-- The names that the template takes from the parameters, in order.  Nothing is
checked, so a malformed level may give a name that no topic is ever built with. -/
def parameterNames (op : Operation) : List String :=
  (levels op.template).filterMap insideBraces?

def fillLevel (op : Operation) (params : TopicParams) (level : String) :
    Except TopicError String :=
  match Segment.ofText? level with
  | none => .error (.malformedTemplate op.template)
  | some (.literal s) => .ok s
  | some (.placeholder name) =>
    match params.get? name with
    | none => .error (.missingParameter op.name name)
    | some value =>
      match validateParameter name value with
      | .error e => .error e
      | .ok () => .ok value

/-- Fills levels from left to right; the leftmost failure is the failure of the
whole. -/
def fillLevels (op : Operation) (params : TopicParams) :
    List String → Except TopicError (List String)
  | [] => .ok []
  | level :: rest =>
    match op.fillLevel params level with
    | .error e => .error e
    | .ok s =>
      match op.fillLevels params rest with
      | .error e => .error e
      | .ok filled => .ok (s :: filled)

def topic (op : Operation) (role : TopicRole) (params : TopicParams) :
    Except TopicError String :=
  if op.supports role then
    match op.fillLevels params (levels op.template) with
    | .error e => .error e
    | .ok filled =>
      let topic := joinLevels (filled ++ role.suffix?.toList)
      match validateTopicLength topic with
      | .error e => .error e
      | .ok () => .ok topic
  else .error (.roleNotSupported op.name role)

def debugText (op : Operation) : String :=
  let (wrapper, kind) := match op.kind with
    | .requestResponse => ("Operation", "RequestResponse")
    | .event => ("EventStream", "Event")
  wrapper ++ "(OperationDescriptor \x7b service: " ++ Text.quoted op.service
    ++ ", name: " ++ Text.quoted op.name
    ++ ", template: " ++ Text.quoted op.template
    ++ ", kind: " ++ kind ++ " \x7d)"

end Operation

end DeviceLink
