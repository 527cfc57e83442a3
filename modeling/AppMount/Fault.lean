import AppMount.Conversion
import AppMount.Datum
import AppMount.Signature

/-!
# Faults

Everything that can go wrong while applications are described, registered and mounted. A fault is
a cause; its text, its category and whether it belongs to the library's own family of errors are
functions of the cause.

* `Raised`: an error that application code raises by itself;
* `ParameterFault`: what the parameters of an application class can be at fault for;
* `Fault`: all causes; `Fault.message`, `Fault.category`, `Fault.isOwn`, `Fault.cause?`;
* `isOwn_iff_category`: the own family is the two categories `RoostError` and
  `ConfigurationError`.
-/

namespace AppMount

/-! ## 1. Causes -/

/-- **An error raised by application code**, with its category and its text. -/
structure Raised where
  category : String
  text : String
  deriving DecidableEq, Repr

/-- The text of an error as messages show it: that of a missing key is quoted. -/
def Raised.shown (error : Raised) : String :=
  if error.category = "KeyError" then Text.quoted error.text else error.text

/-- **What a method with a fixed kind of result may hand back instead.** -/
inductive ResultFault where
  | initializer (typeName : String)
  | description (method typeName : String)
  | truth (typeName : String)
  | whole (method typeName : String)
  | key
  | length
  deriving DecidableEq, Repr

/-- **Why the parameters of an application class do not take a call without arguments.** -/
inductive ParameterFault where
  /-- A parameter has no argument. -/
  | missing (parameter : String)
  /-- The class, or a constructor method of it, cannot be called. -/
  | uncallable (description : String)
  /-- What a class says about its parameters says nothing. -/
  | meaningless (description : String)
  /-- Something else goes wrong before the parameters are found out. -/
  | other (text : String)
  deriving DecidableEq, Repr

/-- The text of a fault of parameters. -/
def ParameterFault.text : ParameterFault → String
  | .missing parameter => "missing a required argument: " ++ Text.quoted parameter
  | .uncallable description => description ++ " is not a callable object"
  | .meaningless description => "unexpected object " ++ description ++ " in __signature__ attribute"
  | .other text => text

/-- **What can go wrong.** -/
inductive Fault where
  /-- Application code raised an error. -/
  | raised (error : Raised)
  /-- A name has nothing bound to it. -/
  | unbound (name : String)
  /-- A frozen descriptor is not to be changed. -/
  | afterMounting (name : Datum)
  /-- An application class shows that it cannot be called without arguments. -/
  | unconstructible (qualname : String) (reason : ParameterFault)
  /-- The parameters of something that is built in cannot be found out. -/
  | noSignature (description : String)
  /-- What a thing says in a text about its parameters lists none. -/
  | wrongSignature (description : String)
  /-- The parameters of a method have no place for the instance. -/
  | noInstanceParameter
  /-- Something that a class is said to wrap shows no parameters. -/
  | noSignatureOf (description : String)
  /-- A class leaves methods open. -/
  | openMethods (name : String) (methods : List String)
  /-- A call does not fit the parameters of what is called. -/
  | call (callee : String) (fault : CallFault)
  /-- A class is called with arguments and takes none. -/
  | takesNoArguments (name : String)
  /-- A class that had a method for making bare instances is called with arguments. -/
  | takesClassOnly
  /-- The names of the methods that a class leaves open cannot be put together. -/
  | openName (position : Nat) (typeName : String)
  /-- Something that is no text is used as the name of a member. -/
  | notMemberName (typeName : String)
  /-- An object lacks a member. -/
  | noMember (typeName member : String)
  /-- A class lacks a member. -/
  | noClassMember (name member : String)
  /-- A member that an object does not have is assigned or deleted. -/
  | noMemberToChange (typeName member : String)
  /-- A field of an object has no value. -/
  | noValue (typeName field : String)
  /-- A field that has no value is deleted. -/
  | noValueToDelete (field : String)
  /-- Something that is not a collection is read as one. -/
  | notIterable (typeName : String)
  /-- What is handed out to be read element by element cannot be. -/
  | notIterator (typeName : String)
  /-- What is handed out as the keys of a mapping cannot be read. -/
  | unreadableKeys (typeName given : String)
  /-- Something is asked for an item and has none. -/
  | noItems (typeName : String)
  /-- A mapping is asked for a key that it does not have. -/
  | noSuchKey (description : String)
  /-- Something without a length is counted. -/
  | noLength (typeName : String)
  /-- Something that cannot be held by one caller at a time is to be. -/
  | notHeld (typeName : String)
  /-- Something that cannot be called is called. -/
  | notCallable (typeName : String)
  /-- Something that cannot be a key is used as one. -/
  | notKey (typeName : String)
  /-- An element read as a pair has the wrong length. -/
  | pairLength (index length : Nat)
  /-- An element read as a pair is not a sequence. -/
  | notPair (index : Nat)
  /-- A registration is built without an application. -/
  | noApplication
  /-- A required listener is missing. -/
  | missingListener (label : String) (name : Datum) (configured : List String)
  /-- Two registrations want the same place. -/
  | samePlace (label taken : String) (contextRoot listener : Datum)
  /-- A primitive class cannot convert what it is called with. -/
  | conversion (fault : ConversionFault)
  /-- Two things that have no order are to be put in order. -/
  | notOrdered (left right : String)
  /-- A value is put under a key of something that has no keys. -/
  | noKeys (typeName : String)
  /-- A value is put under a key of something that counts its items. -/
  | noTextIndex (typeName key : String)
  /-- A method hands back something other than what it has to. -/
  | wrongResult (fault : ResultFault)
  /-- Something that is not a class is to be declared a kind of a class. -/
  | notClass
  /-- A class is to be declared a kind of a class that is a kind of it. -/
  | circularKind
  /-- Application code calls itself without an end. -/
  | endlessCall
  /-- A bare instance of a class with values would have none. -/
  | unsafeInstance (name able : String)
  /-- Something that is not a class is to be derived from. -/
  | notBaseClass
  /-- An instance of the root class is to be derived from. -/
  | notTypes
  /-- Something that stands for base classes is to be derived from. -/
  | baseEntry
  /-- The name of a class holds a null character. -/
  | nullInName
  /-- The qualified name of a class is a method. -/
  | qualnameNotText
  /-- What links the methods of a class to it is a method itself. -/
  | notCell
  /-- An object has no namespace of its own. -/
  | noNamespace
  /-- A built-in class is not to be changed. -/
  | sealedClass (name member : String)
  /-- A field of an immutable record is assigned or deleted. -/
  | frozenField (deleting : Bool) (field : String)
  /-- A member of an immutable record that is not a field is assigned or deleted. -/
  | recordMember
  /-- A computed member is assigned or deleted. -/
  | computedMember (deleting : Bool) (typeName member : String)
  /-- A member that an object has from its class is assigned or deleted. -/
  | classMember (typeName member : String)
  /-- The class of an object is assigned something that is not a class. -/
  | classAssigned (typeName : String)
  /-- The class of an object is deleted. -/
  | classDeleted
  /-- A name of a class is assigned something that is not a text. -/
  | classNameAssigned (name member typeName : String)
  /-- The ancestors of a class are assigned something that is not a list of them. -/
  | ancestorsAssigned (name typeName : String)
  /-- A member that describes a class is deleted. -/
  | classMemberDeleted (name member : String)
  /-- A member that a class does not let anybody write is assigned or deleted. -/
  | unwritableMember (member kind : String)
  /-- A member that can only be read is assigned or deleted. -/
  | readOnlyMember
  /-- A part of a thing is assigned something of another kind than it takes, or deleted. -/
  | partAssigned (member what : String)
  /-- The namespace of an object is assigned something that is no mapping. -/
  | namespaceAssigned (typeName : String)
  /-- The namespace of an object is deleted. -/
  | namespaceDeleted
  /-- An item is asked for by a position that does not exist in a sequence of a kind. -/
  | noSuchPosition (kind : String)
  /-- An item is asked for by a position that no machine word holds. -/
  | hugePosition
  /-- A length is given that no machine word holds. -/
  | hugeLength
  /-- A package is asked for a name that it does not export. -/
  | notExported (package name : String)
  deriving DecidableEq, Repr

/-! ## 2. Texts -/

/-- The text of a wrong result. -/
def ResultFault.text : ResultFault → String
  | .initializer typeName =>
    "__init__() should return None, not '" ++ Text.clipped 200 typeName ++ "'"
  | .description method typeName =>
    method ++ " returned non-string (type " ++ Text.clipped 200 typeName ++ ")"
  | .truth typeName => "__bool__ should return bool, returned " ++ Text.clipped 200 typeName
  | .whole method typeName =>
    method ++ " returned " ++ (if method = "__trunc__" then "non-Integral" else "non-int")
      ++ " (type " ++ Text.clipped 200 typeName ++ ")"
  | .key => "__hash__ method should return an integer"
  | .length => "__len__() should return >= 0"

namespace Fault

/-- The name of a class in messages on its members: fifty bytes of it. -/
def shortName (name : String) : String :=
  Text.clipped 50 name

/-- The name of a class in messages on its use: two hundred bytes of it. -/
def longName (name : String) : String :=
  Text.clipped 200 name

/-- **The text of a fault.** -/
def message : Fault → String
  | .raised error => error.shown
  | .unbound name => name
  | .afterMounting name =>
    "Cannot modify resource config "
      ++ (if name.isTrue then name else .text "<unnamed>").describe
      ++ " after it has been mounted. Register components before building the server."
  | .unconstructible qualname reason =>
    "Cannot instantiate application class " ++ qualname ++ ": " ++ reason.text
      ++ ". Application classes must be constructible without arguments; "
      ++ "register an instance instead."
  | .noSignature description => "no signature found for builtin " ++ description
  | .wrongSignature description => description ++ " builtin has invalid signature"
  | .noInstanceParameter => "invalid method signature"
  | .noSignatureOf description => "callable " ++ description ++ " is not supported by signature"
  | .openMethods name methods =>
    "Can't instantiate abstract class " ++ name ++ " with abstract method"
      ++ CallFault.plural methods.length ++ " " ++ ", ".intercalate methods
  | .call callee fault => callee ++ "()" ++ fault.text
  | .takesNoArguments name => longName name ++ "() takes no arguments"
  | .takesClassOnly => "object.__new__() takes exactly one argument (the type to instantiate)"
  | .openName position typeName =>
    "sequence item " ++ toString position ++ ": expected str instance, "
      ++ Text.clipped 80 typeName ++ " found"
  | .notMemberName typeName =>
    "attribute name must be string, not '" ++ longName typeName ++ "'"
  | .noMember typeName member =>
    "'" ++ shortName typeName ++ "' object has no attribute '" ++ member ++ "'"
  | .noClassMember name member =>
    "type object '" ++ shortName name ++ "' has no attribute '" ++ member ++ "'"
  | .noMemberToChange typeName member =>
    "'" ++ Text.clipped 100 typeName ++ "' object has no attribute '" ++ member ++ "'"
  | .noValue typeName field =>
    "'" ++ longName typeName ++ "' object has no attribute '" ++ field ++ "'"
  | .noValueToDelete field => field
  | .notIterable typeName => "'" ++ longName typeName ++ "' object is not iterable"
  | .notIterator typeName =>
    "iter() returned non-iterator of type '" ++ Text.clipped 100 typeName ++ "'"
  | .unreadableKeys typeName given =>
    Text.clipped 200 typeName ++ ".keys() returned a non-iterable (type "
      ++ Text.clipped 200 given ++ ")"
  | .noItems typeName => "'" ++ longName typeName ++ "' object is not subscriptable"
  | .noSuchKey description => description
  | .noLength typeName => "object of type '" ++ longName typeName ++ "' has no len()"
  | .notHeld typeName =>
    "'" ++ longName typeName ++ "' object does not support the context manager protocol"
  | .notCallable typeName => "'" ++ longName typeName ++ "' object is not callable"
  | .notKey typeName => "unhashable type: '" ++ longName typeName ++ "'"
  | .pairLength index length =>
    "dictionary update sequence element #" ++ toString index ++ " has length " ++ toString length
      ++ "; 2 is required"
  | .notPair index =>
    "cannot convert dictionary update sequence element #" ++ toString index ++ " to a sequence"
  | .noApplication =>
    "No application configured. Call config(), application() or application_class() "
      ++ "before build()."
  | .missingListener label name configured =>
    "Application " ++ label ++ " requires listener " ++ name.describe
      ++ ", which is not configured. Configured listeners: " ++ ", ".intercalate configured ++ "."
  | .samePlace label taken contextRoot listener =>
    "Application " ++ label ++ " and application " ++ taken ++ " are both mounted on "
      ++ contextRoot.describe ++ " of listener " ++ listener.describe ++ "."
  | .conversion fault => fault.text
  | .notOrdered left right =>
    "'<' not supported between instances of '" ++ Text.clipped 100 left ++ "' and '"
      ++ Text.clipped 100 right ++ "'"
  | .noKeys typeName => "'" ++ longName typeName ++ "' object does not support item assignment"
  | .noTextIndex typeName key =>
    typeName ++ " indices must be integers or slices, not " ++ Text.clipped 200 key
  | .wrongResult fault => fault.text
  | .notClass => "Can only register classes"
  | .circularKind => "Refusing to create an inheritance cycle"
  | .endlessCall => "maximum recursion depth exceeded"
  | .unsafeInstance name able =>
    "object.__new__(" ++ name ++ ") is not safe, use " ++ able ++ ".__new__()"
  | .notBaseClass =>
    "metaclass conflict: the metaclass of a derived class must be a (non-strict) subclass of the "
      ++ "metaclasses of all its bases"
  | .notTypes => "bases must be types"
  | .baseEntry => "type() doesn't support MRO entry resolution; use types.new_class()"
  | .nullInName => "type name must not contain null characters"
  | .qualnameNotText => "type __qualname__ must be a str, not function"
  | .notCell => "__classcell__ must be a nonlocal cell, not <class 'function'>"
  | .noNamespace => "vars() argument must have __dict__ attribute"
  | .sealedClass name member =>
    "cannot set '" ++ member ++ "' attribute of immutable type '" ++ name ++ "'"
  | .frozenField deleting field =>
    (if deleting then "cannot delete field " else "cannot assign to field ") ++ "'" ++ field ++ "'"
  | .recordMember => "super(type, obj): obj must be an instance or subtype of type"
  | .computedMember deleting typeName member =>
    "property '" ++ member ++ "' of " ++ Text.quoted typeName ++ " object has no "
      ++ (if deleting then "deleter" else "setter")
  | .classMember typeName member =>
    "'" ++ shortName typeName ++ "' object attribute '" ++ member ++ "' is read-only"
  | .classAssigned typeName =>
    "__class__ must be set to a class, not '" ++ typeName ++ "' object"
  | .classDeleted => "can't delete __class__ attribute"
  | .classNameAssigned name member typeName =>
    "can only assign string to " ++ name ++ "." ++ member ++ ", not '" ++ typeName ++ "'"
  | .ancestorsAssigned name typeName =>
    "can only assign tuple to " ++ name ++ ".__bases__, not " ++ typeName
  | .classMemberDeleted name member =>
    "cannot delete '" ++ member ++ "' attribute of immutable type '" ++ name ++ "'"
  | .unwritableMember member kind =>
    "attribute '" ++ member ++ "' of '" ++ kind ++ "' objects is not writable"
  | .readOnlyMember => "readonly attribute"
  | .partAssigned member what => member ++ " must be set to a " ++ what ++ " object"
  | .namespaceAssigned typeName =>
    "__dict__ must be set to a dictionary, not a '" ++ longName typeName ++ "'"
  | .namespaceDeleted => "cannot delete __dict__"
  | .noSuchPosition kind => kind ++ " index out of range"
  | .hugePosition | .hugeLength => "cannot fit 'int' into an index-sized integer"
  | .notExported package name =>
    "module '" ++ package ++ "' has no attribute " ++ Text.quoted name

/-- **The category of a fault.** -/
def category : Fault → String
  | .raised error => error.category
  | .unbound _ => "Unbound"
  | .afterMounting _ | .unconstructible .. | .noApplication | .missingListener ..
  | .samePlace .. => "ConfigurationError"
  | .noSignature _ | .wrongSignature _ | .noInstanceParameter | .noSignatureOf _ | .pairLength ..
  | .nullInName => "ValueError"
  | .conversion fault => if fault.isAboutValue then "ValueError" else "TypeError"
  | .openMethods .. | .call .. | .takesNoArguments _ | .takesClassOnly | .openName ..
  | .notMemberName _
  | .notIterable _ | .notIterator _ | .unreadableKeys .. | .noItems _ | .noLength _ | .notHeld _
  | .notCallable _ | .notTypes | .baseEntry | .namespaceAssigned _ | .namespaceDeleted
  | .notKey _ | .notPair _ | .notOrdered .. | .noKeys _ | .noTextIndex .. | .notClass
  | .unsafeInstance .. | .notBaseClass | .qualnameNotText | .notCell | .noNamespace
  | .sealedClass .. | .recordMember
  | .partAssigned ..
  | .classAssigned _ | .classDeleted | .classNameAssigned .. | .ancestorsAssigned ..
  | .classMemberDeleted .. => "TypeError"
  | .wrongResult fault => if fault = .length then "ValueError" else "TypeError"
  | .noMember .. | .noClassMember .. | .noMemberToChange .. | .noValue .. | .noValueToDelete _
  | .computedMember .. | .classMember .. | .unwritableMember .. | .readOnlyMember
  | .notExported .. => "AttributeError"
  | .circularKind => "RuntimeError"
  | .endlessCall => "RecursionError"
  | .frozenField .. => "FrozenInstanceError"
  | .noSuchPosition _ | .hugePosition => "IndexError"
  | .noSuchKey _ => "KeyError"
  | .hugeLength => "OverflowError"

/-- Whether a fault belongs to the library's own family of errors. -/
def isOwn (f : Fault) : Bool :=
  f.category = "RoostError" || f.category = "ConfigurationError"

theorem isOwn_iff_category (f : Fault) :
    f.isOwn = true ↔ f.category = "RoostError" ∨ f.category = "ConfigurationError" := by
  simp [isOwn]

/-- The fault behind a fault, written with its category. Only the check of a constructor's
    parameters reports one fault because of another. -/
def cause? : Fault → Option String
  | .unconstructible _ reason => some ("TypeError: " ++ reason.text)
  | _ => none

/-- A fault on one line: its category and its text. -/
def line (f : Fault) : String :=
  f.category ++ ": " ++ f.message

end Fault

end AppMount
