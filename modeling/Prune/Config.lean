import Prune.Json.Reader
import Prune.Path
import Prune.Error

/-!
# Configuration

What a user may set: the extension of source files, the names that the runtime
provides, and whether decorators may be written. Every key may be left out, an
unknown key is skipped, and a configuration may also be written as a list of
the values in the order of the keys.

The names known without being declared are the configured ones and, unless
switched off, those every runtime has. They are only asked when a module
neither declares nor imports a name.
-/

namespace Prune

/-- The settings of a run. -/
structure Config where
  extension : String
  globals : List String
  builtinGlobals : Bool
  decorators : Bool
deriving Repr, DecidableEq, Inhabited

namespace Config

/-- The settings where nothing is configured. -/
def default : Config := ⟨"ts", [], true, true⟩

/-- The name of the configuration file beside an entry. -/
def fileName : String := "treeshake.config.json"

/-- The names every runtime provides, values first and then types. -/
def runtimeNames : List String :=
  ["undefined", "NaN", "Infinity", "globalThis", "Object", "Function",
    "Array", "Number", "Boolean", "String", "Symbol", "BigInt", "Math", "JSON",
    "Date", "RegExp", "Error", "TypeError", "RangeError", "SyntaxError",
    "ReferenceError", "EvalError", "URIError", "AggregateError", "Promise",
    "Proxy", "Reflect", "Map", "Set", "WeakMap", "WeakSet", "WeakRef",
    "ArrayBuffer", "SharedArrayBuffer", "DataView", "Int8Array", "Uint8Array",
    "Uint8ClampedArray", "Int16Array", "Uint16Array", "Int32Array",
    "Uint32Array", "Float32Array", "Float64Array", "BigInt64Array",
    "BigUint64Array", "Intl", "Atomics", "parseInt", "parseFloat", "isNaN",
    "isFinite", "encodeURI", "encodeURIComponent", "decodeURI",
    "decodeURIComponent", "eval", "console", "setTimeout", "clearTimeout",
    "setInterval", "clearInterval", "queueMicrotask", "structuredClone",
    "window", "document", "process", "Partial", "Required", "Readonly",
    "Record", "Pick", "Omit", "Exclude", "Extract", "NonNullable", "Parameters",
    "ReturnType", "InstanceType", "Awaited", "PromiseLike", "ReadonlyArray",
    "Iterable", "Iterator", "IterableIterator", "AsyncIterable",
    "AsyncIterator",
    "ArrayLike", "PropertyKey", "ThisType"]

/-- Whether the runtime is known to provide a name. -/
def isGlobal (config : Config) (name : String) : Bool :=
  config.globals.contains name ||
    (config.builtinGlobals && runtimeNames.contains name)

/-- The names the runtime is known to provide, each once. -/
def globalNames (config : Config) : List String :=
  (config.globals ++
    if config.builtinGlobals then runtimeNames else []).eraseDups

/-- Whether a path names a source file. -/
def isSourceFile (config : Config) (path : String) : Bool :=
  Path.extension path = some config.extension

/-- An entry has to be a source file. -/
def checkEntry (config : Config) (entry : String) : Except Error Unit :=
  if config.isSourceFile entry then .ok ()
  else .error
    (.invalidEntry (Path.normalize entry) (.wrongExtension config.extension))

/-! ## Reading -/

/-- The keys of a configuration. -/
inductive Key where
  | extension
  | globals
  | builtinGlobals
  | decorators
deriving DecidableEq

def Key.name : Key → String
  | .extension => "extension"
  | .globals => "globals"
  | .builtinGlobals => "builtinGlobals"
  | .decorators => "decorators"

def Key.ofName? (name : String) : Option Key :=
  [Key.extension, .globals, .builtinGlobals, .decorators].find? fun key =>
    key.name = name

open Json Json.Reader

/-- Reads the value of a key into the settings. -/
def readKey (config : Config) : Key → Reader Config
  | .extension => do return { config with extension := ← text }
  | .globals => do return { config with globals := ← list text }
  | .builtinGlobals => do return { config with builtinGlobals := ← boolean }
  | .decorators => do return { config with decorators := ← boolean }

/-- The entries of an object; no key may come twice. -/
def readEntries : Nat → Bool → List Key → Config → Reader Config
  | 0, _, _, config => return config
  | fuel + 1, first, seen, config => do
      if ← moreEntries first then
        skip
        match Key.ofName? (← stringBody) with
        | none =>
            colon
            skipValue
            readEntries fuel false seen config
        | some key =>
            if seen.contains key then failUnplaced (.duplicateField key.name)
            colon
            readEntries fuel false (key :: seen) (← readKey config key)
      else return config

/-- The elements of a list, one for each key; the list may end early. -/
def readElements (config : Config) (first : Bool) : List Key → Reader Config
  | [] => return config
  | key :: keys => do
      if ← moreElements first then
        readElements (← readKey config key) false keys
      else return config

def reader : Reader Config := placed do
  match ← peekValue with
  | none => failAhead .endInValue
  | some byte =>
      if byte = byteOf '[' then
        skip
        within
          (readElements default true
            [.extension, .globals, .builtinGlobals, .decorators]) closeList
      else if byte = byteOf '\x7b' then
        skip
        within (do readEntries ((← remaining) + 1) true [] default) closeObject
      else refuse "struct Config"

/-- Reads the text of a configuration. -/
def ofText (text : String) : Except Json.Failure Config := Json.read reader text

end Config

end Prune
