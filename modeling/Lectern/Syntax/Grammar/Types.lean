/-
Module: Lectern.Syntax.Grammar.Types
Purpose: How types are written.
Main exports: typeRule, returnTypeRule, typeArgumentsRule, typeParameters, callSignature,
  objectTypeRule
-/
import Lectern.Syntax.Grammar.Basic

namespace Lectern.Syntax.Grammar

open Reader

/-- The types that have a word of their own. -/
def predefinedTypes : List String :=
  ["any", "number", "boolean", "string", "symbol", "void", "unknown", "never", "object"]

/-! ## Parameters of types and functions -/

/-- One parameter of a generic declaration. -/
def typeParameter (go : Rules) : Reader Node := do
  let const ← if (← seesWord "const") && (← nameFollows) then pure [← token "const"]
    else pure []
  let name ← wordAs .typeIdentifier
  let bound ← if ← seesWord "extends" then
      let extends' ← token "extends"
      pure [← build .typeConstraint [extends', ← go (.type .inner 0)]]
    else pure []
  let default ← if ← sees "=" then
      let equals ← token "="
      pure [(← build .defaultType [equals, ← go (.type .inner 0)]).as .value]
    else pure []
  build .typeParameter (const ++ name.as .name :: bound ++ default)

/-- The parameters of a generic declaration. -/
def typeParameters (go : Rules) : Reader Node := do
  let opening ← token "<"
  let items ← separated (do return [← typeParameter go]) ">"
  if items.isEmpty then refuse
  build .typeParameters (opening :: items ++ [← token ">"])

/-- The parameters of a generic declaration, where there are any. -/
def optionalTypeParameters (go : Rules) : Reader (List Node) := do
  if ← sees "<" then return [(← typeParameters go).as (.role "type_parameters")] else return []

/-- Type parameters, parameters and return type of a function. -/
def callSignature (go : Rules) (site : Site) : Reader (List Node) := do
  let generics ← optionalTypeParameters go
  let parameters ← go .parameters
  let result ← if ← sees ":" then
      pure [(← go (.returnType site)).as (.role "return_type")]
    else pure []
  return generics ++ parameters.as (.role "parameters") :: result

/-! ## Return types -/

/-- A claim about a parameter: `name is Type`. -/
def typePredicate (go : Rules) (site : Site) : Reader Node := do
  let name ← if ← seesWord "this" then wordAs .thisKeyword else wordAs .identifier
  if ← endsHere true then refuse
  let is ← keyword "is"
  build .typePredicate [name.as .name, is, (← go (.type site 0)).as (.role "type")]

/-- What stands after the colon of a return type, and the category of the whole annotation. -/
def returnPhrase (go : Rules) (site : Site) : Reader (Node × Kind) := do
  if ← seesWord "asserts" then
    let asserts ← token "asserts"
    let subject ← either (typePredicate go site)
      (do if ← seesWord "this" then wordAs .thisKeyword else wordAs .identifier)
    return (← build .asserts [asserts, subject], .assertsMark)
  else
    match ← optional (typePredicate go site) with
    | some predicate => return (predicate, .typePredicateMark)
    | none => return (← go (.type site 0), .typeMark)

/-- A return type with its colon. -/
def returnTypeRule (go : Rules) (site : Site) : Reader Node := do
  let colon ← token ":"
  let (phrase, kind) ← returnPhrase go site
  build kind [colon, phrase]

/-! ## Type arguments -/

/-- Arguments of a generic type. -/
def typeArgumentsRule (go : Rules) : Reader Node := do
  let opening ← token "<"
  let items ← separated (do return [← go (.type .inner 0)]) ">"
  if items.isEmpty then refuse
  build .typeArguments (opening :: items ++ [← token ">"])

/-! ## Object types -/

/-- The key part of an index signature and the annotation behind its bracket. -/
def indexSignature (go : Rules) (site : Site) (front : List Node) : Reader Node := do
  let opening ← token "["
  let name ← wordAs .identifier
  let inside ← if ← seesWord "in" then
      let name := { name with kind := .typeIdentifier }
      let in' ← token "in"
      let domain ← go (.type .inner 0)
      let rename ← if ← seesWord "as" then
          let as' ← token "as"
          pure [as', (← go (.type .inner 0)).as .alias]
        else pure []
      pure [← build .mappedTypeClause (name.as .name :: in' :: domain.as (.role "type") :: rename)]
    else
      let colon ← token ":"
      pure [name.as .name, colon, (← go (.type .inner 0)).as (.role "index_type")]
  let closing ← token "]"
  let marked := fun (text : String) (kind : Kind) => do
    let mark ← token text
    build kind [mark, ← go (.type site 0)]
  let annotation ← if ← sees "-?:" then marked "-?:" .omittingTypeMark
    else if ← sees "+?:" then marked "+?:" .addingTypeMark
    else if ← sees "?:" then marked "?:" .optingTypeMark
    else typeMark go site
  build .indexSignature (front ++ opening :: inside ++ [closing, annotation.as (.role "type")])

/-- Does an index signature start at this bracket? -/
def seesIndexSignature : Reader Bool := fun source cursor =>
  if Lexeme.at? source cursor.next '[' then
    let start := Lexeme.skipTrivia source (cursor.next + 1)
    let stop := Lexeme.wordStop source start
    let after := Lexeme.skipTrivia source stop
    let isIn := Lexeme.startsWith source after "in".toList &&
      Lexeme.wordStop source after == after + 2
    .found (stop > start && (Lexeme.at? source after ':' || isIn)) cursor
  else .found false cursor

/-- One member of an object type or an interface. -/
def typeMember (go : Rules) : Reader Node := do
  let site : Site := { endable := true }
  if ← seesIndexSignature then indexSignature go site []
  else if (← sees "-") || (← sees "+") then
    let sign ← if ← sees "-" then token "-" else token "+"
    let readonly ← keyword "readonly"
    indexSignature go site [sign, readonly]
  else if (← seesWord "readonly") && (← afterWord seesIndexSignature) then
    let readonly ← token "readonly"
    indexSignature go site [readonly]
  else if (← sees "(") || (← sees "<") then
    build .callSignature (← callSignature go site)
  else if (← seesWord "new") && (← afterWord (do return (← sees "(") || (← sees "<"))) then
    let new ← token "new"
    let generics ← optionalTypeParameters go
    let parameters ← go .parameters
    let result ← optionalTypeMark go site
    build .constructSignature (new :: generics ++ parameters.as (.role "parameters") :: result)
  else
    let modifiers ← many do
      let text ← word
      if ["public", "private", "protected", "static", "override", "readonly", "async", "get",
          "set"].contains text && (← nameFollows) then
        if ["public", "private", "protected"].contains text then
          return some [← wordAs .accessibilityModifier]
        else if text == "override" then return some [← wordAs .overrideModifier]
        else return some [← token text]
      else return none
    let star ← if ← sees "*" then pure [← token "*"] else pure []
    let name ← propertyName go
    let mark ← if ← sees "?" then pure [← token "?"] else pure []
    if (← sees "(") || (← sees "<") then
      let signature ← callSignature go site
      build .methodSignature (modifiers ++ star ++ name.as .name :: mark ++ signature)
    else
      let annotation ← optionalTypeMark go site
      build .propertySignature (modifiers ++ name.as .name :: mark ++ annotation)

/-- An object type; the body of an interface is written the same way. -/
def objectTypeRule (go : Rules) : Reader Node := do
  let opening ← token openBrace
  let lead ← if ← sees "," then pure [← token ","]
    else if ← sees ";" then pure [← token ";"] else pure []
  let members ← many do
    if ← sees closeBrace then return none
    let member ← typeMember go
    if ← sees "," then return some [member, ← token ","]
    return some (member :: (← semicolon true))
  build .objectType (opening :: lead ++ members ++ [← token closeBrace])

/-! ## Types -/

/-- A name that may be qualified, with its arguments. -/
def namedType (go : Rules) (site : Site) : Reader Node := do
  let first ← wordAs .typeIdentifier
  let qualify := fun (left : Node) => do
    let dot ← token "."
    let name ← wordAs .typeIdentifier
    build .nestedTypeIdentifier [left.as (.role "module"), dot, name.as .name]
  let rec qualified : Nat → Node → Reader Node
    | 0, left => pure left
    | fuel + 1, left => do
      if (← sees ".") && !(← sees "...") then
        let module' := if left.kind = .typeIdentifier then { left with kind := .identifier }
          else { left with kind := .nestedIdentifier }
        qualified fuel (← qualify module')
      else return left
  let name ← qualified (← getSource).size first
  if (site.endable && (← endsHere true)) then return name
  if ← sees "<" then
    build .genericType [name.as .name, (← go .typeArguments).as (.role "type_arguments")]
  else return name

/-- What a type query or an imported type is made of: a name or an import, and members of it. -/
def typeQueryTarget (go : Rules) : Reader Node := do
  let base ← if ← seesWord "import" then
      let import' ← wordAs .importKeyword
      let arguments ← go .argumentList
      build .callExpression [import'.as (.role "function"), arguments.as (.role "arguments")]
    else if ← seesWord "this" then wordAs .thisKeyword
    else wordAs .identifier
  let rec members : Nat → Node → Reader Node
    | 0, left => pure left
    | fuel + 1, left => do
      if (← sees ".") && !(← sees "...") then
        let dot ← token "."
        let name ← if ← sees "#" then privateName else wordAs .propertyIdentifier
        members fuel (← build .memberExpression
          [left.as (.role "object"), dot, name.as (.role "property")])
      else return left
  members (← getSource).size base

/-- One entry of a tuple type. -/
def tupleMember (go : Rules) : Reader Node := do
  let named : Reader Node := do
    if ← sees "..." then
      let dots ← token "..."
      let name ← wordAs .identifier
      let rest ← build .restPattern [dots, name]
      if !(← sees ":") then refuse
      build .requiredParameter [rest.as .name, (← typeMark go .inner).as (.role "type")]
    else
      let name ← wordAs .identifier
      if ← sees "?" then
        let mark ← token "?"
        if !(← sees ":") then refuse
        build .optionalParameter
          [name.as .name, mark, (← typeMark go .inner).as (.role "type")]
      else
        if !(← sees ":") then refuse
        build .requiredParameter [name.as .name, (← typeMark go .inner).as (.role "type")]
  let plain : Reader Node := do
    if ← sees "..." then
      let dots ← token "..."
      build .restType [dots, ← go (.type .inner 0)]
    else
      let inner ← go (.type .inner 0)
      if ← sees "?" then build .optionalType [inner, ← token "?"] else return inner
  either named plain

/-- A function type or a constructor type whose keywords have been read. -/
def functionTypeRest (go : Rules) (site : Site) (kind : Kind) (front : List Node) :
    Reader Node := do
  let generics ← optionalTypeParameters go
  let parameters ← go .parameters
  let arrow ← token "=>"
  let (result, _) ← if kind = .functionType then returnPhrase go site
    else (do return (← go (.type site 0), .typeMark))
  build kind (front ++ generics ++ [parameters.as (.role "parameters"), arrow,
    result.as (.role (if kind = .functionType then "return_type" else "type"))])

/-- A literal used as a type. -/
def literalType (inner : Node) : Reader Node := build .literalType [inner]

/-- A type that no operator joins. -/
def typeOperand (go : Rules) (site : Site) : Reader Node := do
  let byte ← peek
  if byte == 0x28 then
    match ← speculate (functionTypeRest go site .functionType []) with
    | some node => return node
    | none =>
      let opening ← token "("
      let inner ← go (.type .inner 0)
      build .parenthesizedType [opening, inner, ← token ")"]
  else if byte == 0x3C then functionTypeRest go site .functionType []
  else if byte == 0x5B then
    let opening ← token "["
    let items ← separated (do return [← tupleMember go]) "]"
    build .tupleType (opening :: items ++ [← token "]"])
  else if byte == 0x7B then go .objectType
  else if byte == 0x22 || byte == 0x27 then literalType (← stringLeaf)
  else if byte == 0x60 then template .templateLiteralType .templateType (go (.type .inner 0))
  else if byte == 0x2A then leafTo .existentialType ((← getCursor).next + 1)
  else if byte == 0x3F then
    let mark ← token "?"
    build .flowMaybeType [mark, ← go (.type site 3)]
  else if byte == 0x7C || byte == 0x26 then
    let operator ← if byte == 0x7C then token "|" else token "&"
    let right ← go (.type site (if byte == 0x7C then 2 else 3))
    build (if byte == 0x7C then .unionType else .intersectionType) [operator, right]
  else if byte == 0x2D || byte == 0x2B then
    let sign ← if byte == 0x2D then token "-" else token "+"
    let digits ← numberLeaf
    literalType (← build .unaryExpression
      [sign.as (.role "operator"), digits.as (.role "argument")])
  else if Lexeme.isDigit byte || byte == 0x2E then literalType (← numberLeaf)
  else
    let text ← word
    if text == "" then refuse
    else if text == "new" then
      let new ← token "new"
      functionTypeRest go site .constructorType [new]
    else if text == "abstract" && (← afterWord (seesWord "new")) then
      let abstract ← token "abstract"
      let new ← token "new"
      functionTypeRest go site .constructorType [abstract, new]
    else if text == "typeof" then
      let typeof ← token "typeof"
      let target ← typeQueryTarget go
      if !(site.endable && (← endsHere true)) && (← sees "<") then
        let arguments ← go .typeArguments
        let whole ← build .instantiationExpression
          [target.as (.role "function"), arguments.as (.role "type_arguments")]
        build .typeQuery [typeof, whole]
      else build .typeQuery [typeof, target]
    else if text == "keyof" then
      let keyof ← token "keyof"
      build .indexTypeQuery [keyof, ← go (.type site 3)]
    else if text == "readonly" then
      let readonly ← token "readonly"
      build .readonlyType [readonly, ← go (.type site 3)]
    else if text == "infer" then
      let infer ← token "infer"
      let name ← wordAs .typeIdentifier
      let bound ← either (do
          let extends' ← keyword "extends"
          return [extends', ← go (.type site 1)]) (pure [])
      build .inferType (infer :: name :: bound)
    else if text == "unique" && (← afterWord (seesWord "symbol")) then
      let start := (← getCursor).next
      let unique ← token "unique"
      let symbol ← token "symbol"
      return { unique with kind := .predefinedType, named := true, start, stop := symbol.stop }
    else if text == "import" then typeQueryTarget go
    else if text == "this" then wordAs .thisType
    else if text == "const" then token "const"
    else if text == "true" then literalType (← wordAs .trueLiteral)
    else if text == "false" then literalType (← wordAs .falseLiteral)
    else if text == "null" then literalType (← wordAs .nullLiteral)
    else if text == "undefined" then literalType (← wordAs .undefinedLiteral)
    else if predefinedTypes.contains text then wordAs .predefinedType
    else namedType go site

/-- The operators that follow a type: brackets, then `&`, then `|`, then a condition. -/
def typeTail (go : Rules) (site : Site) (level : Nat) : Nat → Node → Reader Node
  | 0, left => pure left
  | fuel + 1, left => do
    if site.endable && (← endsHere true) then return left
    let byte ← peek
    let joins := byte == 0x7C || byte == 0x26
    let closed := [Kind.functionType, .constructorType, .conditionalType].contains left.kind
    if byte == 0x5B && !closed then
      let opening ← token "["
      if ← sees "]" then
        typeTail go site level fuel (← build .arrayType [left, opening, ← token "]"])
      else
        let index ← go (.type .inner 0)
        typeTail go site level fuel (← build .lookupType [left, opening, index, ← token "]"])
    else if joins && level ≤ (if byte == 0x7C then 1 else 2) &&
        !(← sees "|\x7d") then
      let operator ← if byte == 0x7C then token "|" else token "&"
      let right ← go (.type site (if byte == 0x7C then 2 else 3))
      let kind := if byte == 0x7C then Kind.unionType else .intersectionType
      typeTail go site level fuel (← build kind [left, operator, right])
    else if level == 0 && (← seesWord "extends") then
      let condition : Reader Node := do
        let extends' ← token "extends"
        let right ← go (.type .inner 1)
        let mark ← token "?"
        let yes ← go (.type .inner 0)
        let colon ← token ":"
        let no ← go (.type site 0)
        build .conditionalType [left.as .left, extends', right.as .right, mark,
          yes.as (.role "consequence"), colon, no.as (.role "alternative")]
      match ← optional condition with
      | some node => typeTail go site level fuel node
      | none => return left
    else return left

/-- A type whose operators bind at least as tightly as a level asks. -/
def typeRule (go : Rules) (site : Site) (level : Nat) : Reader Node := do
  let left ← typeOperand go site
  typeTail go site level (← getSource).size left

end Lectern.Syntax.Grammar
