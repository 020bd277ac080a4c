import McpPortal.Foundation.Dynamic
import McpPortal.Foundation.Fallible
import McpPortal.Foundation.PyText
import McpPortal.Foundation.Unicode
import McpPortal.Operations

/-!
# Tool names

Names are presentation only and are generated after selection, because collision
suffixes depend on the surviving set. The suffix of a text is the beginning of its
SHA-256 digest, which is an argument here.
-/

namespace McpPortal

open Foundation

def maxNameLength : Nat := 64

def suffixLength : Nat := 6

def truncateTo : Nat := maxNameLength - suffixLength - 1

/-- `NAME_PATTERN`. -/
def isToolName (text : String) : Bool :=
  decide (1 ≤ text.toList.length ∧ text.toList.length ≤ maxNameLength) &&
    text.toList.all fun char => isSlugChar char || char = '_'

inductive NameCollisionError where
  | duplicateIds (ids : List String)
  | duplicateEntryIds (ids : List String)
  | survivedSuffixing (names : List String)
  | declaredTwice (first second name : String)
  | generatesDeclared (id name owner : String)
  deriving DecidableEq

def NameCollisionError.message (isPrintable : Char → Bool) : NameCollisionError → String
  | .duplicateIds ids =>
      "duplicate operation ids: " ++ (Json.arr (ids.map .str)).repr isPrintable
  | .duplicateEntryIds ids =>
      "duplicate operation ids in operations[]: " ++ (Json.arr (ids.map .str)).repr isPrintable
  | .survivedSuffixing names =>
      "tool name collision survived suffixing: " ++ (Json.arr (names.map .str)).repr isPrintable
  | .declaredTwice first second name =>
      "operations " ++ reprString isPrintable first ++ " and " ++ reprString isPrintable second ++
        " both declare tool name " ++ reprString isPrintable name
  | .generatesDeclared id name owner =>
      "operation " ++ reprString isPrintable id ++ " generates tool name " ++
        reprString isPrintable name ++ ", which operation " ++ reprString isPrintable owner ++
        " declares explicitly"

abbrev Naming := Except (PyException NameCollisionError)

inductive NamingStrategy where
  | operationId
  | methodPath
  deriving DecidableEq

structure NamingOptions where
  strategy : NamingStrategy := .operationId
  prefixWithGroupTag : Bool := false
  prefixWithUpstream : Bool := false

section Generate

variable (unicode : PyUnicode) (suffix : String → String)

def normalize (text : String) : String :=
  slug (unicode.lower text)

def baseName (op : Operation) (options : NamingOptions) : String :=
  let core :=
    match options.strategy, op.binding with
    | .methodPath, .http binding => binding.method ++ "_" ++ binding.path
    | _, _ => op.id
  let upstream := if options.prefixWithUpstream then [op.upstream] else []
  let tag := if options.prefixWithGroupTag then op.groupTags.take 1 else []
  let base := normalize unicode (joinWith "_" (upstream ++ tag ++ [core]))
  if base = "" then "op_" ++ suffix op.id else base

/-- The first `truncateTo` characters. -/
def truncated (name : String) : String :=
  String.ofList (name.toList.take truncateTo)

def cap (name : String) : String :=
  if name.toList.length ≤ maxNameLength then name else truncated name ++ "_" ++ suffix name

/-- Names by operation id; a base name that several operations share gets their suffixes. -/
def generateNames (operations : List Operation) (options : NamingOptions) :
    Naming (List (String × String)) := do
  let duplicates := sortedRepeats (operations.map (·.id))
  if duplicates ≠ [] then throw (.raised (.duplicateIds duplicates))
  let bases := Dict.ofList (operations.map fun op =>
    (op.id, cap suffix (baseName unicode suffix op options)))
  let sortedBases := bases.insertionSort fun left right => left.1 ≤ right.1
  let names := sortedBases.map fun entry =>
    if (bases.map (·.2)).count entry.2 = 1 then entry
    else (entry.1, truncated entry.2 ++ "_" ++ suffix entry.1)
  let unresolved := sortedRepeats (names.map (·.2))
  if unresolved ≠ [] then throw (.raised (.survivedSuffixing unresolved))
  if !(names.map (·.2)).all isToolName then throw .assertionError
  return names

end Generate

end McpPortal
