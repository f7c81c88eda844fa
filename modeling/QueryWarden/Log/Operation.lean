/-
Operations of a logger, each chosen by its name and given one text. Those of the levels
log the text. Others take it for something else or do nothing with it, others again
cannot be used so, and what is no operation at all cannot be used either.
-/

import QueryWarden.Fault
import QueryWarden.Log.Level

namespace QueryWarden.Log

open QueryWarden.Text

/-- What comes of giving a text to an operation of a logger. -/
inductive Reaction where
  | logged (level : Level)
  | ignored
  | refused (fault : Fault)

abbrev Members := List (String × Reaction)

def refusedCall (fault : CallFault) : Reaction :=
  .refused (.call fault)

def refusedType (message : String) : Reaction :=
  .refused (.raised "TypeError" [.text message])

/-- What an operation of its signature makes of one text, if nothing comes of it. -/
def givenOne (signature : Signature) : Reaction :=
  match signature.check 1 with
  | .ok () => .ignored
  | .error fault => refusedCall fault

def loggingMembers : Members :=
  levels.map (fun level => (lowerText level.name, .logged level)) ++
    [("exception", .logged .error)]

/-- Operations that take the text for the name of something else, or compare with it. -/
def ignoringMembers : Members :=
  ["add", "catch", "disable", "enable", "patch", "start", "__eq__", "__ne__", "__lt__", "__le__",
    "__gt__", "__ge__", "__subclasshook__"].map (fun name => (name, .ignored))

def makingParameters : List String :=
  ["core", "exception", "depth", "record", "lazy", "colors", "raw", "capture", "patchers", "extra"]

def signatureMembers : Members :=
  [("bind", .method "Logger.bind" []), ("complete", .method "Logger.complete" []),
    ("configure", .method "Logger.configure" []),
    ("contextualize", .method "Logger.contextualize" []),
    ("log", .method "Logger.log" ["_Logger__level", "_Logger__message"]),
    ("opt", .method "Logger.opt" []), ("parse", .plain "Logger.parse" ["file", "pattern"]),
    ("_find_iter", .plain "Logger._find_iter" ["fileobj", "regex", "chunk"]),
    ("_change_activation", .method "Logger._change_activation" ["name", "status"]),
    ("_log", .method "Logger._log"
      ["level", "from_decorator", "options", "message", "args", "kwargs"]),
    ("__repr__", .method "Logger.__repr__" []), ("__init__", .maker "Logger" makingParameters),
    ("__class__", .maker "Logger" makingParameters)].map
      (fun (name, signature) => (name, givenOne signature))

def bareMembers : Members :=
  ["__dir__", "__getstate__", "__init_subclass__", "__reduce__", "__sizeof__"].map
    (fun name => (name, refusedCall (.notExact ("Logger." ++ name) 0 1)))

/-- Parts that are no operations, by the names of their types. -/
def dataMembers : Members :=
  [("_core", "Core"), ("_options", "tuple"), ("__dict__", "dict"), ("__doc__", "str"),
    ("__module__", "str"), ("__weakref__", "NoneType")].map
      (fun (name, typeName) => (name, refusedType ("'" ++ typeName ++ "' object is not callable")))

def badHandlerText : String :=
  "Invalid handler id, it should be an integer as returned by the 'add()' method (or None), " ++
    "not: 'str'"

/-- Operations that refuse the text itself, each in its own words. -/
def choosyMembers (text : String) : Members :=
  [("remove", refusedType badHandlerText), ("stop", refusedType badHandlerText),
    ("level", .refused (.raised "ValueError" [.text ("Level '" ++ text ++ "' does not exist")])),
    ("__getattribute__", .refused (.unknownLevel text)),
    ("__delattr__", .refused (.unknownLevel text)),
    ("__setattr__", refusedCall (.notCounted "" 2 1)),
    ("__hash__", refusedType "expected 0 arguments, got 1"),
    ("__str__", refusedType "expected 0 arguments, got 1"),
    ("__format__", refusedType "unsupported format string passed to Logger.__format__"),
    ("__new__", refusedType "object.__new__(X): X is not a type object (str)"),
    ("__reduce_ex__", refusedType "'str' object cannot be interpreted as an integer")]

def members (text : String) : Members :=
  loggingMembers ++ ignoringMembers ++ signatureMembers ++ bareMembers ++ dataMembers ++
    choosyMembers text

def reaction (operation text : String) : Reaction :=
  match (members text).lookup operation with
  | some reaction => reaction
  | none => .refused (.unknownLevel operation)

end QueryWarden.Log
