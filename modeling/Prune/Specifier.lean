import Prune.Config

/-!
# Module specifiers

How an import names the module it takes from. A specifier is read from the
directory of the importing file; only specifiers that start at that directory
or above it are understood. The configured extension is added unless the
cleaned path already ends in it, so a module has one name however it is
spelled.
-/

namespace Prune.Specifier

/-- Whether a specifier starts at the importing file's directory or above it. -/
def isRelative (specifier : String) : Bool :=
  let text := specifier.toList
  text = ['.'] || text = ['.', '.'] || ['.', '/'].isPrefixOf text ||
    ['.', '.', '/'].isPrefixOf text

/-- The text that ends the path of every source file. -/
def ending (config : Config) : List Char := '.' :: config.extension.toList

def addEnding (config : Config) (path : List Char) : List Char :=
  if (ending config).isSuffixOf path then path else path ++ ending config

/-- The path of the module that `importer` means by `specifier`. -/
def resolve (config : Config) (importer specifier : String) :
    Except Error String :=
  if isRelative specifier then
    let directory := (Path.parentChars importer.toList).getD []
    let path := Path.normalizeChars (Path.joinChars directory specifier.toList)
    .ok (String.ofList (addEnding config path))
  else .error (.unsupported importer (.notRelative specifier))

end Prune.Specifier
