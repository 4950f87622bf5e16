import TapeDebugger.Settings.Token

/-!
# Assignments

A settings file says which values its fields have. Read as a list of assignments
of values to paths, nested structures need no tree: a structure is an assignment
to its own path besides those of its fields, and a field that is given twice has
two assignments, which have to agree.
-/

namespace TapeDebugger.Settings

/-- The types a value can be required to have. -/
inductive Kind where
  | any
  /-- An integer, within bounds where there are any. -/
  | integer (least greatest : Option Int)
  | real
  | number
  | text
  | bytes
  | bool
deriving Repr, DecidableEq

namespace Kind

/-- The integers of so many bits, in two's complement. -/
def signedBits (width : Nat) : Kind :=
  .integer (some (-Int.pow 2 (width - 1))) (some (Int.pow 2 (width - 1) - 1))

/-- The integers of so many bits that are not negative. -/
def unsignedBits (width : Nat) : Kind :=
  .integer (some 0) (some (Int.pow 2 width - 1))

/-- The type of a name. -/
def ofName? (name : String) : Option Kind :=
  match name with
  | "_" => some .any
  | "int" => some (.integer none none)
  | "int8" => some (signedBits 8)
  | "int16" => some (signedBits 16)
  | "int32" => some (signedBits 32)
  | "int64" => some (signedBits 64)
  | "int128" => some (signedBits 128)
  | "uint" => some (.integer (some 0) none)
  | "uint8" => some (unsignedBits 8)
  | "uint16" => some (unsignedBits 16)
  | "uint32" => some (unsignedBits 32)
  | "uint64" => some (unsignedBits 64)
  | "uint128" => some (unsignedBits 128)
  | "rune" => some (.integer (some 0) (some 0x10FFFF))
  | "float" => some .real
  | "number" => some .number
  | "string" => some .text
  | "bytes" => some .bytes
  | "bool" => some .bool
  | _ => none

/-- Whether a value can have both of two types. All bounds admit zero. -/
def isCompatible : Kind → Kind → Bool
  | .any, _ => true
  | _, .any => true
  | .integer .., .integer .. => true
  | .integer .., .number => true
  | .number, .integer .. => true
  | .real, .number => true
  | .number, .real => true
  | first, second => first == second

end Kind

/-- What is assigned to a path. -/
inductive Leaf where
  | integer (value : Int)
  /-- Some digits times a power of ten, which tell equal reals from others. -/
  | real (digits exponent : Int)
  | text (value : String)
  | bytes (value : String)
  | bool (value : Bool)
  | null
  | list
  /-- A structure, whose fields have assignments of their own. -/
  | struct
  /-- No value, but the type that one has to have. -/
  | kind (kind : Kind)
deriving Repr, DecidableEq

namespace Leaf

/-- Whether the leaf is a value. -/
def isConcrete : Leaf → Bool
  | kind _ => false
  | _ => true

/-- Whether a value has a type. -/
def hasKind (leaf : Leaf) (required : Kind) : Bool :=
  match required, leaf with
  | .any, _ => true
  | .integer least greatest, integer value =>
    least.all (· ≤ value) && greatest.all (value ≤ ·)
  | .real, real .. => true
  | .number, integer _ => true
  | .number, real .. => true
  | .text, text _ => true
  | .bytes, bytes _ => true
  | .bool, bool _ => true
  | _, _ => false

/-- Whether two leaves can describe one value. -/
def isConsistent : Leaf → Leaf → Bool
  | kind first, kind second => first.isCompatible second
  | kind required, value => value.hasKind required
  | value, kind required => value.hasKind required
  | first, second => first == second

/-- Whether leaves describe one value between them. -/
def areConsistent (leaves : List Leaf) : Bool :=
  leaves.all fun first => leaves.all first.isConsistent

/-- The one value that several leaves agree on, if they do. -/
def agree? (leaves : List Leaf) : Option Leaf :=
  if areConsistent leaves then leaves.find? isConcrete else none

end Leaf

/-- What a field is called. A name that starts with an underscore outside of
quotes is private: its values have to be consistent and are otherwise ignored. -/
structure Label where
  name : String
  isPrivate : Bool
deriving Repr, DecidableEq

/-- An assignment of a leaf to a path of fields. -/
structure Assignment where
  path : List Label
  leaf : Leaf
deriving Repr, DecidableEq

namespace Label

/-- The label at the start of some tokens, with its colon. Names with two
underscores in front are reserved. -/
def parse? : List Token → Option (Label × List Token)
  | .identifier name :: .colon :: rest =>
    if name = "_" ∨ name.startsWith "__" then none
    else some ({ name, isPrivate := name.startsWith "_" }, rest)
  | .text name :: .colon :: rest => some ({ name, isPrivate := false }, rest)
  | .bytes name :: .colon :: rest => some ({ name, isPrivate := false }, rest)
  | _ => none

end Label

/-- The value of a bare word. -/
def wordLeaf? (name : String) : Option Leaf :=
  match name with
  | "true" => some (.bool true)
  | "false" => some (.bool false)
  | "null" => some .null
  | name => (Kind.ofName? name).map .kind

/-- A number behind any number of signs. -/
def signedLeaf? : List Token → Option (Leaf × List Token)
  | .plus :: rest => signedLeaf? rest
  | .minus :: rest =>
    (signedLeaf? rest).map fun (leaf, rest) =>
      match leaf with
      | .integer value => (.integer (-value), rest)
      | .real digits exponent => (.real (-digits) exponent, rest)
      | leaf => (leaf, rest)
  | .integer value :: rest => some (.integer value, rest)
  | .real digits exponent :: rest => some (.real digits exponent, rest)
  | _ => none

/-- A value without braces. -/
def scalarLeaf? : List Token → Option (Leaf × List Token)
  | .text value :: rest => some (.text value, rest)
  | .bytes value :: rest => some (.bytes value, rest)
  | .identifier name :: rest => (wordLeaf? name).map fun leaf => (leaf, rest)
  | .openBracket :: .closeBracket :: rest => some (.list, rest)
  | tokens => signedLeaf? tokens

/-- The assignments of braces at a path that hold some fields. A value that stands
alone in them is what the braces stand for; without one, or with fields that are
not private beside it, they are a structure. -/
def bracedAssignments (path : List Label) (fields : List Assignment) : List Assignment :=
  let isField := fun assignment : Assignment =>
    (assignment.path.drop path.length).head?.any fun label => !label.isPrivate
  if fields.any isField || !fields.any (fun assignment => assignment.path == path) then
    { path, leaf := .struct } :: fields
  else fields

mutual

/-- Read a value at a path: a structure in braces, a field of a structure that
needs none, or a scalar. -/
def parseValue : (fuel : Nat) → (path : List Label) → List Token →
    Option (List Assignment × List Token)
  | 0, _, _ => none
  | fuel + 1, path, tokens =>
    match tokens with
    | .openBrace :: rest =>
      match parseFields fuel path rest with
      | some (fields, .closeBrace :: rest) => some (bracedAssignments path fields, rest)
      | _ => none
    | tokens =>
      match Label.parse? tokens with
      | some (label, rest) =>
        (parseValue fuel (path ++ [label]) rest).map fun (assignments, rest) =>
          ({ path, leaf := .struct } :: assignments, rest)
      | none => (scalarLeaf? tokens).map fun (leaf, rest) => ([{ path, leaf }], rest)

/-- Read fields with commas between them up to a closing brace or the end. -/
def parseFields : (fuel : Nat) → (path : List Label) → List Token →
    Option (List Assignment × List Token)
  | 0, _, _ => none
  | fuel + 1, path, tokens =>
    match tokens with
    | [] => some ([], [])
    | .closeBrace :: rest => some ([], .closeBrace :: rest)
    | tokens =>
      let declaration :=
        match Label.parse? tokens with
        | some (label, rest) => parseValue fuel (path ++ [label]) rest
        | none => parseValue fuel path tokens
      match declaration with
      | none => none
      | some (assignments, .comma :: rest) =>
        (parseFields fuel path rest).map fun (others, rest) => (assignments ++ others, rest)
      | some (assignments, []) => some (assignments, [])
      | some (assignments, .closeBrace :: rest) => some (assignments, .closeBrace :: rest)
      | some _ => none

end

/-- The assignments of a source, if it is well formed. -/
def assignments? (source : List UInt8) : Option (List Assignment) :=
  match Token.tokens? source with
  | none => none
  | some tokens =>
    match parseFields (3 * tokens.length + 3) [] tokens with
    | some (assignments, []) => some assignments
    | _ => none

end TapeDebugger.Settings
