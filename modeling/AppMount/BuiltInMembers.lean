import AppMount.Fault

/-!
# Members of built-in kinds

The names under which plain data, collections and members that were taken off have something from
their classes, besides what all things have. Most of that cannot be changed on the things
themselves; some of it is a part of the thing, which the class keeps and has rules for.

* `builtInMembers`: the names, by the word for the kind of a thing;
* `Part`, `partsOf`: the parts of a thing; `Part.fault?`: why one cannot be changed, if it cannot.
-/

namespace AppMount

/-! ## Members -/

/-- The members of whole numbers and truth values, without the parts of a number. -/
def wholeMembers : List String :=
  ["__abs__", "__add__", "__and__", "__bool__", "__ceil__", "__divmod__", "__float__",
    "__floor__", "__floordiv__", "__getnewargs__", "__index__", "__int__", "__invert__",
    "__lshift__", "__mod__", "__mul__", "__neg__", "__or__", "__pos__", "__pow__", "__radd__",
    "__rand__", "__rdivmod__", "__rfloordiv__", "__rlshift__", "__rmod__", "__rmul__", "__ror__",
    "__round__", "__rpow__", "__rrshift__", "__rshift__", "__rsub__", "__rtruediv__", "__rxor__",
    "__sub__", "__truediv__", "__trunc__", "__xor__", "as_integer_ratio", "bit_count",
    "bit_length", "conjugate", "from_bytes", "to_bytes"]

/-- The members of decimal fractions, without the parts of a number. -/
def decimalMembers : List String :=
  ["__abs__", "__add__", "__bool__", "__ceil__", "__divmod__", "__float__", "__floor__",
    "__floordiv__", "__getformat__", "__getnewargs__", "__int__", "__mod__", "__mul__", "__neg__",
    "__pos__", "__pow__", "__radd__", "__rdivmod__", "__rfloordiv__", "__rmod__", "__rmul__",
    "__round__", "__rpow__", "__rsub__", "__rtruediv__", "__sub__", "__truediv__", "__trunc__",
    "as_integer_ratio", "conjugate", "fromhex", "hex", "is_integer"]

/-- The members of texts. -/
def textMembers : List String :=
  ["__add__", "__contains__", "__getitem__", "__getnewargs__", "__iter__", "__len__", "__mod__",
    "__mul__", "__rmod__", "__rmul__", "capitalize", "casefold", "center", "count", "encode",
    "endswith", "expandtabs", "find", "format", "format_map", "index", "isalnum", "isalpha",
    "isascii", "isdecimal", "isdigit", "isidentifier", "islower", "isnumeric", "isprintable",
    "isspace", "istitle", "isupper", "join", "ljust", "lower", "lstrip", "maketrans", "partition",
    "removeprefix", "removesuffix", "replace", "rfind", "rindex", "rjust", "rpartition", "rsplit",
    "rstrip", "split", "splitlines", "startswith", "strip", "swapcase", "title", "translate",
    "upper", "zfill"]

/-- The members of lists. -/
def listMembers : List String :=
  ["__add__", "__class_getitem__", "__contains__", "__delitem__", "__getitem__", "__iadd__",
    "__imul__", "__iter__", "__len__", "__mul__", "__reversed__", "__rmul__", "__setitem__",
    "append", "clear", "copy", "count", "extend", "index", "insert", "pop", "remove", "reverse",
    "sort"]

/-- The members of mappings. -/
def mappingMembers : List String :=
  ["__class_getitem__", "__contains__", "__delitem__", "__getitem__", "__ior__", "__iter__",
    "__len__", "__or__", "__reversed__", "__ror__", "__setitem__", "clear", "copy", "fromkeys",
    "get", "items", "keys", "pop", "popitem", "setdefault", "update", "values"]

/-- The members of sets. -/
def setMembers : List String :=
  ["__and__", "__class_getitem__", "__contains__", "__iand__", "__ior__", "__isub__", "__iter__",
    "__ixor__", "__len__", "__or__", "__rand__", "__ror__", "__rsub__", "__rxor__", "__sub__",
    "__xor__", "add", "clear", "copy", "difference", "difference_update", "discard",
    "intersection", "intersection_update", "isdisjoint", "issubset", "issuperset", "pop", "remove",
    "symmetric_difference", "symmetric_difference_update", "union", "update"]

/-- The members of what hands out things one by one, without its parts. -/
def streamMembers : List String :=
  ["__del__", "__iter__", "__next__", "close", "send", "throw"]

/-- The members of what is computed for each instance, without its parts. -/
def computedMembers : List String :=
  ["__delete__", "__get__", "__set__", "__set_name__", "deleter", "getter", "setter"]

/-- **The members that things of a built-in kind have from their classes**, by the word for the
    kind. -/
def builtInMembers : String → List String
  | "int" | "bool" => wholeMembers
  | "float" => decimalMembers
  | "str" => textMembers
  | "list" => listMembers
  | "dict" => mappingMembers
  | "set" => setMembers
  | "generator" => streamMembers
  | "property" => computedMembers
  | "method" => ["__call__"]
  | "NoneType" => ["__bool__"]
  | _ => []

/-! ## Parts -/

/-- **A part of a thing that its class keeps**: one that can only be read, one that things of a kind
    do not let anybody write, one that has to be a text, one that is never given what it takes,
    one that takes nothing at most, one that takes a mapping or nothing, or one that takes
    anything. -/
inductive Part where
  | readOnly
  | unwritable (kind : String)
  | text
  | code
  | sequence
  | mapping
  | free
  deriving DecidableEq, Repr

namespace Part

/-- Whether a part takes a value, of which it is known what datum it is, if it is one. -/
def takes (part : Part) (value : Option Datum) : Bool :=
  match part, value with
  | .free, _ | .text, some (.text _) | .sequence, some .null | .mapping, some .null
  | .mapping, some (.mapping _) => true
  | _, _ => false

/-- Whether a part can be lost. -/
def isLoose (part : Part) : Bool :=
  part = .free || part = .sequence || part = .mapping

/-- Why a part of a thing cannot be assigned a value, or deleted, if it cannot. -/
def fault? (part : Part) (deleting : Bool) (member : String) (value : Option Datum) :
    Option Fault :=
  match part with
  | .readOnly => some .readOnlyMember
  | .unwritable kind => some (.unwritableMember member kind)
  | part =>
    if if deleting then part.isLoose else part.takes value then none
    else some (.partAssigned member (word part))
where
  /-- The word for what a part takes. -/
  word : Part → String
    | .text => "string"
    | .code => "code"
    | .sequence => "tuple"
    | _ => "dict"

end Part

/-- The parts of a method by itself. -/
def methodParts : List (String × Part) :=
  ["__builtins__", "__closure__", "__globals__"].map (·, .readOnly)
    ++ [("__code__", .code), ("__defaults__", .sequence), ("__kwdefaults__", .mapping),
      ("__annotations__", .mapping), ("__name__", .text), ("__qualname__", .text),
      ("__doc__", .free), ("__module__", .free)]

/-- **The parts of a thing of a built-in kind**, by the word for the kind. -/
def partsOf : String → List (String × Part)
  | "int" | "bool" => ["denominator", "imag", "numerator", "real"].map (·, .unwritable "int")
  | "float" => ["imag", "real"].map (·, .unwritable "float")
  | "function" => methodParts
  | "method" =>
    [("__func__", .readOnly), ("__self__", .readOnly), ("__doc__", .unwritable "method")]
  | "property" =>
    [("fdel", .readOnly), ("fget", .readOnly), ("fset", .readOnly), ("__doc__", .free),
      ("__isabstractmethod__", .unwritable "property")]
  | "generator" =>
    ["gi_frame", "gi_running", "gi_suspended", "gi_yieldfrom"].map (·, .unwritable "generator")
      ++ [("gi_code", .readOnly), ("__name__", .text), ("__qualname__", .text)]
  | _ => []

end AppMount
