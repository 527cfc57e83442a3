import AppMount.Descriptor
import AppMount.Server

/-!
# Things

What an object of the store can be: an instance of a class, a plain object, an executor, one of the
immutable records, one of the builders and servers, a member that was taken off its class, or a
collection that a method handed back.

* `Content`: what an object is; `Collection`: one that was handed back;
* `Thing`: an object with what it is equal to;
* `Content.fields?`: the fields of a record, by which records are told from all else;
  `Content.shown`: what the description of an object shows;
* `Content.essence`: what two records or lists have to agree in to be equal.
-/

namespace AppMount

/-! ## 1. Contents -/

/-- The kinds of plain objects: one with an identity only, one that is equal to all of its kind
    and cannot be a key, and one that tests as false. -/
inductive Stock where
  | plain
  | equal
  | falsy
  deriving DecidableEq, Repr

/-- The word for a kind of plain objects. -/
def Stock.word : Stock → String
  | .plain => "Plain"
  | .equal => "Equal"
  | .falsy => "Falsy"

/-- **A member that was taken off a thing or a class**: a method of an instance, a method or a
    computed member of the class that holds it, or a method of a kind of objects. A method that was
    written into the namespace of a thing is like one that was taken off a class. -/
inductive TakenMember where
  | bound (definer : Ref) (m : Method)
  | free (definer : Ref) (m : Method)
  | computed
  | builtIn (name : String)
  deriving DecidableEq, Repr

/-- The kind of objects that have a method to take off. -/
def TakenMember.builder : String := "ApplicationRegistrationBuilder"

/-- The word for the kind of a member that was taken off. -/
def TakenMember.typeWord : TakenMember → String
  | .bound .. | .builtIn _ => "method"
  | .free .. => "function"
  | .computed => "property"

/-- **A collection that a method handed back**, with what is in it. A set comes with the codes of
    those of its elements that have one of their own, and the data of a mapping with the place where
    they were written. Of things that are handed out one by one those are kept that are still to
    come, with the fault after the last if there is one. -/
inductive Collection where
  | list (items : List Ref)
  | set (items : List Ref) (codes : List (Ref × KeyCode))
  | stream (items : List Ref) (ending : Option Fault)
  | entries (pairs : List (Datum × Datum)) (place : Nat)
  deriving DecidableEq, Repr

namespace Collection

/-- The word for the kind of a collection. -/
def typeWord : Collection → String
  | .list _ => "list"
  | .set .. => "set"
  | .stream .. => "generator"
  | .entries .. => "dict"

/-- The things in a collection. Those that are handed out one by one are not looked into. -/
def refs : Collection → List Ref
  | .list items | .set items _ => items
  | .stream .. | .entries .. => []

/-- Whether a collection is known to have nothing in it. -/
def isEmpty : Collection → Bool
  | .list items | .set items _ => items.isEmpty
  | .entries pairs _ => pairs.isEmpty
  | .stream .. => false

/-- Why a collection cannot be a key, if it cannot: the word for its kind. -/
def keyless? : Collection → Option String
  | .stream .. => none
  | x => some x.typeWord

/-- The description of a collection, given how references are described. -/
def describe (ref : Ref → String) : Collection → String
  | .list items => "[" ++ ", ".intercalate (items.map ref) ++ "]"
  | .set [] _ => "set()"
  | .set items _ => "\x7b" ++ ", ".intercalate (items.map ref) ++ "\x7d"
  | .stream .. => "<generator object>"
  | .entries pairs _ =>
    "\x7b" ++ ", ".intercalate (pairs.map fun e => e.1.describe ++ ": " ++ e.2.describe) ++ "\x7d"

end Collection

/-- **What an object is.** An instance of a class below a primitive one has a value. Metadata are
    kept with whatever was given as their routing name, a server's configuration with whatever was
    listed as its listeners, and a server with the objects that stand for its mounts. -/
inductive Content where
  | made (c : ClassId) (value : Option Datum)
  | stock (kind : Stock)
  | executor (name : String) (falsy : Bool)
  | routing (r : RoutingName)
  | metadata (path : Datum) (routing : Ref)
  | listener (x : ListenerRecord)
  | serverConfig (host port : Datum) (members : List Ref)
  | registration (r : Registration)
  | mount (m : Mount)
  | registrationBuilder (b : RegistrationBuilder)
  | serverBuilder (b : ServerBuilder)
  | server (s : Server) (mounts : List Ref)
  | member (owner : Ref) (x : TakenMember)
  | collection (x : Collection)
  deriving DecidableEq, Repr

namespace Content

/-- The word for the kind of an object that is no instance of a class of the store. -/
def typeWord? : Content → Option String
  | .made .. => none
  | .stock kind => some kind.word
  | .executor .. => some "Executor"
  | .routing _ => some "RoutingName"
  | .metadata .. => some "AppMetadata"
  | .listener _ => some "ListenerConfig"
  | .serverConfig .. => some "ServerConfig"
  | .registration _ => some "ApplicationRegistration"
  | .mount _ => some "Mount"
  | .registrationBuilder _ => some TakenMember.builder
  | .serverBuilder _ => some "ServerBuilder"
  | .server .. => some "Server"
  | .member _ x => some x.typeWord
  | .collection x => some x.typeWord

/-! ## 2. Records -/

/-- **The fields of an immutable record**, in order; nothing for what is no record. -/
def fields? : Content → Option (List String)
  | .routing _ => some ["value", "required"]
  | .metadata .. => some ["path", "routing"]
  | .listener _ => some ["name", "host", "port"]
  | .serverConfig .. => some ["host", "port", "listeners"]
  | .registration _ =>
    some ["context_root", "resource_config", "executor", "app_class_name", "routing_name",
      "routing_name_required"]
  | .mount _ => some ["listener", "context_root", "resource_config", "executor", "app_class_name"]
  | _ => none

/-- Whether an object is an immutable record. -/
def isRecord (x : Content) : Bool :=
  x.fields?.isSome

/-- What a record refers to, in the order of its fields, and what is in a collection. -/
def refs : Content → List Ref
  | .metadata _ r => [r]
  | .serverConfig _ _ members => members
  | .registration r => [r.config, r.executor]
  | .mount m => [m.config, m.executor]
  | .collection x => x.refs
  | _ => []

/-- What the description of an object shows: what it refers to, and the owner of a method that was
    taken off it. -/
def shown : Content → List Ref
  | .member owner (.bound ..) => [owner]
  | x => x.refs

/-- **What two records or lists have to agree in to be equal**: all their fields and items, where
    those that refer to something agree when they refer to equal things. -/
def essence (like : Ref → Ref) : Content → Content
  | .routing r => .routing ⟨r.value.key, r.required.key⟩
  | .metadata path r => .metadata path.key (like r)
  | .listener x => .listener ⟨x.name.key, x.host.key, x.port.key⟩
  | .serverConfig host port members => .serverConfig host.key port.key (members.map like)
  | .registration r =>
    .registration
      { contextRoot := r.contextRoot.key, config := like r.config, executor := like r.executor,
        appClassName := r.appClassName.key, routingName := r.routingName.key,
        routingRequired := r.routingRequired.key }
  | .mount m =>
    .mount
      { listener := m.listener.key, contextRoot := m.contextRoot.key, config := like m.config,
        executor := like m.executor, appClassName := m.appClassName.key }
  | .collection (.list items) => .collection (.list (items.map like))
  | x => x

end Content

/-! ## 3. Objects -/

/-- **An object of the store**: what it is, the representative of the things it is equal to, and
    the word that explains why it cannot be a key, if it cannot. -/
structure Thing where
  content : Content
  like : Ref
  keyless : Option String := none
  deriving DecidableEq, Repr

end AppMount
