import Playhouse.Data.Access

/-!
What a field of a template names: a value, or one of the things that values lead to, such as their
kinds, which form a tree with `object` at its root. A subject has members, by name, and items, by number or key.
-/
namespace Playhouse.Template

inductive Kind where
  | nothing | bool | int | float | text | list | record | tuple | kinds | object | application
  deriving DecidableEq

namespace Kind

def name : Kind → String
  | nothing => "NoneType"
  | bool => "bool"
  | int => "int"
  | float => "float"
  | text => "str"
  | list => "list"
  | record => "dict"
  | tuple => "tuple"
  | kinds => "type"
  | object => "object"
  | application => "GenericAlias"

/-- Where a kind is at home. -/
def home : Kind → String
  | application => "types"
  | _ => "builtins"

/-- The name of a kind in messages, with its home if that is not the usual one. -/
def label : Kind → String
  | application => "types.GenericAlias"
  | other => other.name

def shown (k : Kind) : String := "<class '" ++ k.label ++ "'>"

def parent? : Kind → Option Kind
  | object => none
  | bool => some int
  | _ => some object

/-- A kind and those above it. -/
def line : Kind → List Kind
  | object => [object]
  | bool => [bool, int, object]
  | other => [other, object]

def isApplicable : Kind → Bool
  | list | record | tuple | kinds => true
  | _ => false

/-- Whether the things of a kind change, so that they have no hash. -/
def isMutable : Kind → Bool
  | list | record => true
  | _ => false

def help : Kind → Option String
  | nothing => none
  | bool => some ("bool(x) -> bool\n\nReturns True when the argument x is true, False otherwise.\n"
      ++ "The builtins True and False are the only two instances of the class bool.\n"
      ++ "The class bool is a subclass of the class int, and cannot be subclassed.")
  | int => some ("int([x]) -> integer\nint(x, base=10) -> integer\n\n"
      ++ "Convert a number or string to an integer, or return 0 if no arguments\n"
      ++ "are given.  If x is a number, return x.__int__().  For floating point\n"
      ++ "numbers, this truncates towards zero.\n\n"
      ++ "If x is not a number or if base is given, then x must be a string,\n"
      ++ "bytes, or bytearray instance representing an integer literal in the\n"
      ++ "given base.  The literal can be preceded by '+' or '-' and be surrounded\n"
      ++ "by whitespace.  The base defaults to 10.  Valid bases are 0 and 2-36.\n"
      ++ "Base 0 means to interpret the base from the string as an integer literal.\n"
      ++ ">>> int('0b100', base=0)\n4")
  | float => some ("Convert a string or number to a floating point number, if possible.")
  | text => some ("str(object='') -> str\nstr(bytes_or_buffer[, encoding[, errors]]) -> str\n\n"
      ++ "Create a new string object from the given object. If encoding or\n"
      ++ "errors is specified, then the object must expose a data buffer\n"
      ++ "that will be decoded using the given encoding and error handler.\n"
      ++ "Otherwise, returns the result of object.__str__() (if defined)\nor repr(object).\n"
      ++ "encoding defaults to sys.getdefaultencoding().\nerrors defaults to 'strict'.")
  | list => some ("Built-in mutable sequence.\n\n"
      ++ "If no argument is given, the constructor creates a new empty list.\n"
      ++ "The argument must be an iterable if specified.")
  | record => some ("dict() -> new empty dictionary\n"
      ++ "dict(mapping) -> new dictionary initialized from a mapping object's\n"
      ++ "    (key, value) pairs\ndict(iterable) -> new dictionary initialized as if via:\n"
      ++ "    d = \x7b\x7d\n    for k, v in iterable:\n        d[k] = v\n"
      ++ "dict(**kwargs) -> new dictionary initialized with the name=value pairs\n"
      ++ "    in the keyword argument list.  For example:  dict(one=1, two=2)")
  | tuple => some ("Built-in immutable sequence.\n\n"
      ++ "If no argument is given, the constructor returns an empty tuple.\n"
      ++ "If iterable is specified the tuple is initialized from iterable's items.\n\n"
      ++ "If the argument is a tuple, the return value is the same object.")
  | kinds => some ("type(object) -> the object's type\ntype(name, bases, dict, **kwds) -> a new type")
  | object => some ("The base class of the class hierarchy.\n\n"
      ++ "When called, it accepts no arguments and returns a new featureless\n"
      ++ "instance that has no instance attributes and cannot be given any.\n")
  | application => some ("Represent a PEP 585 generic type\n\n"
      ++ "E.g. for t = list[int], t.__origin__ is list and t.__args__ is (int,).")

end Kind

inductive Subject where
  | value (v : Value)
  | kind (k : Kind)
  | tuple (items : List Subject)
  | application (k : Kind) (argument : Value)
  deriving Inhabited

namespace Subject

def nothing : Subject := .value .null

def ofText (s : String) : Subject := .value (.text s)

def kindOf : Subject → Kind
  | .value .null => .nothing
  | .value (.bool _) => .bool
  | .value (.int _) => .int
  | .value (.float _) => .float
  | .value (.text _) => .text
  | .value (.list _) => .list
  | .value (.record _) => .record
  | .kind _ => .kinds
  | .tuple _ => .tuple
  | .application _ _ => .application

mutual

/-- The form of a subject inside another one. -/
def shown : Subject → String
  | .value v => v.shown
  | .kind k => k.shown
  | .tuple [item] => "(" ++ shown item ++ ",)"
  | .tuple items => "(" ++ joinTexts ", " (shownItems items) ++ ")"
  | .application k argument => k.name ++ "[" ++ argument.shown ++ "]"

def shownItems : List Subject → List String
  | [] => []
  | item :: rest => shown item :: shownItems rest

end

/-- The text of a subject: a text is itself. -/
def asText : Subject → String
  | .value v => v.asText
  | other => other.shown

/-! ### Members -/

def numberMember? (v : Value) (name : String) : Option Value :=
  match v, name with
  | .float _, "real" => some v
  | .float _, "imag" => some (.float 0)
  | .float _, _ => none
  | _, _ =>
    match v.number?, name with
    | some (.int n), "real" | some (.int n), "numerator" => some (.int n)
    | some (.int _), "imag" => some (.int 0)
    | some (.int _), "denominator" => some (.int 1)
    | _, _ => none

def commonMember? (subject : Subject) (name : String) : Option Subject :=
  let own : Kind := match subject with
    | .kind k => k
    | other => other.kindOf
  match name with
  | "__class__" => some (.kind subject.kindOf)
  | "__doc__" => some ((own.help.map ofText).getD nothing)
  | "__hash__" => if own.isMutable then some nothing else none
  | _ => none

def kindMember? (k : Kind) (name : String) : Option Subject :=
  match name with
  | "__name__" | "__qualname__" => some (ofText k.name)
  | "__module__" => some (ofText k.home)
  | "__base__" => some ((k.parent?.map .kind).getD nothing)
  | "__bases__" => some (.tuple (k.parent?.toList.map .kind))
  | "__mro__" => some (.tuple (k.line.map .kind))
  | _ => commonMember? (.kind k) name

/-- The members of an applied kind that are not those of the kind itself. -/
def applicationMember? (k : Kind) (argument : Value) (name : String) : Option Subject :=
  match name with
  | "__class__" => some (.kind .application)
  | "__origin__" => some (.kind k)
  | "__args__" => some (.tuple [.value argument])
  | "__parameters__" => some (.tuple [])
  | "__unpacked__" => some (.value (.bool false))
  | _ => none

def member (subject : Subject) (name : String) : Except Fault Subject :=
  let orMissing (found : Option Subject) (fault : Fault) : Except Fault Subject :=
    match found with
    | some subject => .ok subject
    | none => .error fault
  match subject with
  | .value v =>
    orMissing ((numberMember? v name).map .value <|> commonMember? subject name)
      (.missingMember v.kind name)
  | .kind k => orMissing (kindMember? k name) (.template (.noKindMember k.label name))
  | .tuple _ => orMissing (commonMember? subject name) (.missingMember subject.kindOf.name name)
  | .application k argument =>
    orMissing (applicationMember? k argument name <|> kindMember? k name)
      (.template (.noKindMember k.label name))

/-! ### Items -/

/-- What stands under a number or a text. -/
inductive Place where
  | index (n : Nat)
  | key (key : String)
  deriving DecidableEq

def Place.value : Place → Value
  | index n => .int n
  | key s => .text s

def item (subject : Subject) (place : Place) : Except Fault Subject :=
  match subject, place with
  | .value v, .index n => (v.nth n).map .value
  | .value v, .key s => (v.entry s).map .value
  | .kind k, place =>
    if k.isApplicable then .ok (.application k place.value)
    else .error (.template (.notApplicable k.label))
  | .tuple items, .index n =>
    match items[n]? with
    | some item => .ok item
    | none => .error (.template .pastTupleEnd)
  | .tuple _, .key _ => .error (.template .tupleKey)
  | .application .., _ => .error (.template (.notGeneric subject.shown))

end Subject
end Playhouse.Template
