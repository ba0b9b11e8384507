/-
Module: Lectern.Syntax.Grammar.Statements
Purpose: How statements, declarations, imports and exports are written.
Main exports: statementRule, blockRule
-/
import Lectern.Syntax.Grammar.Classes

namespace Lectern.Syntax.Grammar

open Reader

/-- The place of an expression or a type that may end a statement. -/
def Site.atEnd : Site := { endable := true }

/-- Statements up to a closing brace. -/
def statements (go : Rules) : Reader (List Node) := many do
  if ← sees closeBrace then return none else return some [← go .statement]

/-- Statements in braces. -/
def blockRule (go : Rules) : Reader Node := do
  let opening ← token openBrace
  let body ← statements go
  build .statementBlock (opening :: body ++ [← token closeBrace])

/-- An expression as a statement. -/
def expressionStatement (go : Rules) : Reader Node := do
  let inner ← sequence go .atEnd
  build .expressionStatement (inner :: (← semicolon))

/-! ## Declarations -/

/-- A name or a pattern in front of an initial value; every word is a name here. -/
def declaredName (go : Rules) : Reader Node := do
  if (← sees openBrace) || (← sees "[") then go .binding else wordAs .identifier

/-- One binding of a declaration, and whether it has an initial value. -/
def declarator (go : Rules) : Reader (Node × Bool) := do
  let name ← declaredName go
  let mark ← if (← sees "!") && !(← sees "!=") then pure [← token "!"] else pure []
  if !mark.isEmpty && (name.kind != .identifier || !(← sees ":")) then refuse
  let annotation ← optionalTypeMark go .atEnd
  let value ← if mark.isEmpty then initializer go .atEnd else pure []
  let node ← build .variableDeclarator (name.as .name :: mark ++ annotation ++ value)
  return (node, !value.isEmpty)

/-- The bindings of a declaration after the first. -/
def moreDeclarators (go : Rules) : Nat → List Node → Bool → Reader (List Node × Bool)
  | 0, _, _ => refuse
  | fuel + 1, found, valued => do
    if ← sees "," then
      let comma ← token ","
      let (node, valued) ← declarator go
      moreDeclarators go fuel (node :: comma :: found) valued
    else return (found.reverse, valued)

/-- A declaration of variables or constants. -/
def variableDeclaration (go : Rules) (text : String) : Reader Node := do
  let keyword ← token text
  let (first, valued) ← declarator go
  let (declarators, valued) ← moreDeclarators go (← getSource).size [first] valued
  let ending ← semicolon (!valued)
  if text == "var" then build .variableDeclaration (keyword :: declarators ++ ending)
  else build .lexicalDeclaration (keyword.as (.role "kind") :: declarators ++ ending)

/-- A function declaration, or only its signature where there is no body. -/
def functionDeclaration (go : Rules) (front : List Node) : Reader Node := do
  let function ← token "function"
  let star ← if ← sees "*" then pure [← token "*"] else pure []
  let name ← wordAs .identifier
  let signature ← callSignature go .atEnd
  let parts := front ++ function :: star ++ name.as .name :: signature
  if ← sees openBrace then
    let body ← go .block
    build (if star.isEmpty then .functionDeclaration else .generatorFunctionDeclaration)
      (parts ++ [body.as .body])
  else if star.isEmpty then build .functionSignature (parts ++ (← semicolon true))
  else refuse

/-- A class declaration. -/
def classDeclaration (go : Rules) (marks : List Node) : Reader Node := do
  let abstract' ← if ← seesWord "abstract" then pure [← token "abstract"] else pure []
  let class' ← keyword "class"
  let name ← wordAs .typeIdentifier
  build (if abstract'.isEmpty then .classDeclaration else .abstractClassDeclaration)
    (marks ++ abstract' ++ class' :: name.as .name :: (← classTail go))

/-- A name for a type. -/
def typeAlias (go : Rules) : Reader Node := do
  let type ← token "type"
  let name ← wordAs .typeIdentifier
  let generics ← optionalTypeParameters go
  let equals ← token "="
  let value ← go (.type .atEnd 0)
  build .typeAliasDeclaration
    (type :: name.as .name :: generics ++ equals :: value.as .value :: (← semicolon true))

/-- An interface. -/
def interfaceDeclaration (go : Rules) : Reader Node := do
  let interface ← token "interface"
  let name ← wordAs .typeIdentifier
  let generics ← optionalTypeParameters go
  let extended ← if ← seesWord "extends" then
      let extends' ← token "extends"
      let first ← namedType go .inner
      let rest ← many do
        if ← sees "," then
          let comma ← token ","
          return some [comma, ← namedType go .inner]
        else return none
      pure [← build .extendsTypeClause (extends' :: first :: rest)]
    else pure []
  let body ← go .objectType
  build .interfaceDeclaration (interface :: name.as .name :: generics ++ extended ++
    [({ body with kind := .interfaceBody }).as .body])

/-- An enumeration. -/
def enumDeclaration (go : Rules) (front : List Node) : Reader Node := do
  let enum ← token "enum"
  let name ← wordAs .identifier
  let opening ← token openBrace
  let items ← separated (do
    let name ← propertyName go
    match ← initializer go .inner with
    | [] => return [name.as .name]
    | value => return [← build .enumAssignment (name.as .name :: value)]) closeBrace
  let body ← build .enumBody (opening :: items ++ [← token closeBrace])
  build .enumDeclaration (front ++ [enum, name.as .name, body.as .body])

/-- A name with its qualifiers. -/
def qualifiedName : Reader Node := do
  let first ← wordAs .identifier
  let rec members : Nat → Node → Reader Node
    | 0, left => pure left
    | fuel + 1, left => do
      if ← sees "." then
        let dot ← token "."
        let name ← wordAs .propertyIdentifier
        members fuel (← build .nestedIdentifier
          [left.as (.role "object"), dot, name.as (.role "property")])
      else return left
  members (← getSource).size first

/-- A module or a namespace from its keyword on. -/
def moduleDeclaration (go : Rules) (kind : Kind) (text : String) : Reader Node := do
  let keyword ← token text
  let byte ← peek
  let name ← if byte == 0x22 || byte == 0x27 then stringLeaf else qualifiedName
  let body ← if ← sees openBrace then pure [(← go .block).as .body] else pure []
  build kind (keyword :: name.as .name :: body)

/-- A local name for a member of a namespace. -/
def importAlias : Reader Node := do
  let import' ← token "import"
  let name ← wordAs .identifier
  let equals ← token "="
  let target ← qualifiedName
  build .importAlias (import' :: name :: equals :: target :: (← semicolon true))

/-- Does a name follow the next word on the same line? -/
def nameOnLine : Reader Bool := afterWord do
  if ← endsHere then return false else seesAnyWord

/-- Does a module's name follow the next word on the same line? -/
def moduleNameOnLine : Reader Bool := afterWord do
  if ← endsHere then return false
  let byte ← peek
  return byte == 0x22 || byte == 0x27 || (← seesAnyWord)

/-- Does a function declaration with a name start here? -/
def seesFunctionDeclaration : Reader Bool := do
  let named : Reader Bool := do
    if ← seesWord "function" then
      afterWord do return (← sees "*") || (← seesAnyWord)
    else return false
  if ← seesWord "function" then
    afterWord do
      if ← sees "*" then
        fun source cursor =>
          let start := Lexeme.skipTrivia source (cursor.next + 1)
          .found (Lexeme.wordStop source start != start) cursor
      else seesAnyWord
  else if ← seesWord "async" then
    afterWord do if ← endsHere then return false else named
  else return false

/-- Does a class declaration with a name start here? -/
def seesClassDeclaration : Reader Bool := do
  let named : Reader Bool := do
    if ← seesWord "class" then
      afterWord do
        let text ← word
        return text != "" && text != "extends" && text != "implements"
    else return false
  if ← seesWord "abstract" then
    afterWord (seesWord "class")
  else named

/-- The categories that are declarations of their own. -/
def declarationKinds : List Kind :=
  [.functionDeclaration, .generatorFunctionDeclaration, .functionSignature, .classDeclaration,
    .abstractClassDeclaration, .lexicalDeclaration, .variableDeclaration, .typeAliasDeclaration,
    .interfaceDeclaration, .enumDeclaration, .moduleDeclaration, .importAlias,
    .ambientDeclaration]

/-- A declaration, where one starts here. -/
def declaration (go : Rules) : Reader (Option Node) := do
  let text ← word
  match text with
  | "function" =>
    if ← seesFunctionDeclaration then return some (← functionDeclaration go []) else return none
  | "async" =>
    if ← seesFunctionDeclaration then
      let async ← token "async"
      return some (← functionDeclaration go [async])
    else return none
  | "class" | "abstract" =>
    if ← seesClassDeclaration then return some (← classDeclaration go []) else return none
  | "var" => return some (← variableDeclaration go text)
  | "const" =>
    if (← afterWord (seesWord "enum")) then
      let const ← token "const"
      return some (← enumDeclaration go [const])
    else return some (← variableDeclaration go text)
  | "let" =>
    let declares ← afterWord do
      if ← endsHere then return false
      return (← seesAnyWord) || (← sees openBrace) || (← sees "[")
    if declares then return some (← variableDeclaration go text) else return none
  | "type" => if ← nameOnLine then return some (← typeAlias go) else return none
  | "interface" => return some (← interfaceDeclaration go)
  | "enum" => return some (← enumDeclaration go [])
  | "namespace" =>
    if ← moduleNameOnLine then
      return some (← moduleDeclaration go .namespaceDeclaration text)
    else return none
  | "module" =>
    if ← moduleNameOnLine then
      return some (← moduleDeclaration go .moduleDeclaration text)
    else return none
  | "declare" =>
    if !(← nameOnLine) then return none
    let declare ← token "declare"
    if ← seesWord "global" then
      let global ← token "global"
      return some (← build .ambientDeclaration [declare, global, ← go .block])
    else if (← seesWord "module") && (← afterWord (sees ".")) then
      let module' ← token "module"
      let dot ← token "."
      let name ← wordAs .propertyIdentifier
      let colon ← token ":"
      let type ← go (.type .atEnd 0)
      return some (← build .ambientDeclaration
        (declare :: module' :: dot :: name :: colon :: type :: (← semicolon true)))
    else if ← seesWord "namespace" then
      let inner ← moduleDeclaration go .namespaceDeclaration "namespace"
      return some (← build .ambientDeclaration [declare, inner])
    else
      let inner ← go .statement
      if declarationKinds.contains inner.kind then
        return some (← build .ambientDeclaration [declare, inner])
      else refuse
  | "import" =>
    let aliases ← afterWord do
      if ← seesAnyWord then afterWord (do return (← sees "=") && !(← sees "==")) else return false
    if aliases then return some (← importAlias) else return none
  | _ => return none

/-! ## Imports and exports -/

/-- The name of an export: a word or a string. -/
def moduleName : Reader Node := do
  let byte ← peek
  if byte == 0x22 || byte == 0x27 then stringLeaf else wordAs .identifier

/-- Does the next word qualify the name behind it? -/
def qualifiesSpecifier : Reader Bool := do
  if (← seesWord "type") || (← seesWord "typeof") then
    afterWord do
      let byte ← peek
      if byte == 0x22 || byte == 0x27 then return true
      if ← seesWord "as" then
        -- The name may itself be `as`; it is renamed where two more words follow.
        afterWord do
          if ← seesWord "as" then return true
          return !(← seesAnyWord)
      else seesAnyWord
  else return false

/-- One name of an import or export list. -/
def specifier (kind : Kind) : Reader Node := do
  let mark ← if ← qualifiesSpecifier then pure [← token (← word)] else pure []
  let name ← moduleName
  let rename ← if ← seesWord "as" then
      let as' ← token "as"
      pure [as', (← moduleName).as .alias]
    else pure []
  build kind (mark ++ name.as .name :: rename)

/-- A list of names in braces. -/
def specifierList (clause item : Kind) : Reader Node := do
  let opening ← token openBrace
  let items ← separated (do return [← specifier item]) closeBrace
  build clause (opening :: items ++ [← token closeBrace])

/-- The module that names come from. -/
def fromClause : Reader (List Node) := do
  let from' ← keyword "from"
  return [from', (← stringLeaf).as .source]

/-- The attributes of an import. -/
def importAttribute (go : Rules) : Reader (List Node) := do
  if ← seesWord "with" then
    let with' ← token "with"
    return [← build .importAttribute [with', ← go (.expression .inner operandLevel)]]
  else return []

/-- All of a module under one name. -/
def namespaceImport : Reader Node := do
  let star ← token "*"
  let as' ← keyword "as"
  build .namespaceImport [star, as', ← wordAs .identifier]

/-- What an import brings in. -/
def importClause : Reader Node := do
  if ← sees "*" then build .importClause [← namespaceImport]
  else if ← sees openBrace then build .importClause [← specifierList .namedImports .importSpecifier]
  else
    let name ← wordAs .identifier
    if ← sees "," then
      let comma ← token ","
      let rest ← if ← sees "*" then namespaceImport
        else specifierList .namedImports .importSpecifier
      build .importClause [name, comma, rest]
    else build .importClause [name]

/-- An import statement. -/
def importStatement (go : Rules) : Reader Node := do
  let import' ← token "import"
  let typeOnly ← if (← seesWord "type") || (← seesWord "typeof") then
      afterWord do
        if (← sees openBrace) || (← sees "*") then return true
        if ← seesWord "from" then afterWord (seesWord "from")
        else seesAnyWord
    else pure false
  let mark ← if typeOnly then pure [← token (← word)] else pure []
  let byte ← peek
  if byte == 0x22 || byte == 0x27 then
    let source ← stringLeaf
    let attributes ← importAttribute go
    build .importStatement (import' :: mark ++ source.as .source :: attributes ++ (← semicolon))
  else if ← afterWord (sees "=") then
    let name ← wordAs .identifier
    let equals ← token "="
    let require ← keyword "require"
    let opening ← token "("
    let source ← stringLeaf
    let clause ← build .importRequireClause
      [name, equals, require, opening, source.as .source, ← token ")"]
    build .importStatement (import' :: mark ++ clause :: (← semicolon))
  else
    let clause ← importClause
    let from' ← fromClause
    let attributes ← importAttribute go
    build .importStatement (import' :: mark ++ clause :: from' ++ attributes ++ (← semicolon))

/-- What stands behind `export default`. -/
def defaultExport (go : Rules) (front : List Node) : Reader Node := do
  if ← sees "@" then
    let marks ← decorators go
    if ← seesClassDeclaration then
      let inner ← classDeclaration go marks
      build .exportStatement (front ++ [inner.as .declaration])
    else refuse
  else
    match ← declaration go with
    | some inner => build .exportStatement (front ++ [inner.as .declaration])
    | none =>
      let value ← go (.expression .atEnd assignmentLevel)
      build .exportStatement (front ++ value.as .value :: (← semicolon))

/-- An export statement whose decorators have been read. -/
def exportStatement (go : Rules) (marks : List Node) : Reader Node := do
  let export' ← token "export"
  let front := marks ++ [export']
  if ← sees "*" then
    let star ← token "*"
    if ← seesWord "as" then
      let as' ← token "as"
      let namespace' ← build .namespaceExport [star, as', ← moduleName]
      build .exportStatement (front ++ namespace' :: (← fromClause) ++ (← semicolon))
    else build .exportStatement (front ++ star :: (← fromClause) ++ (← semicolon))
  else if ← sees openBrace then
    let clause ← specifierList .exportClause .exportSpecifier
    let source ← if ← seesWord "from" then fromClause else pure []
    build .exportStatement (front ++ clause :: source ++ (← semicolon))
  else if ← sees "=" then
    let equals ← token "="
    let value ← go (.expression .atEnd assignmentLevel)
    build .exportStatement (front ++ equals :: value :: (← semicolon))
  else if ← seesWord "default" then
    let default ← token "default"
    defaultExport go (front ++ [default])
  else if (← seesWord "type") && (← afterWord (sees openBrace)) then
    let type ← token "type"
    let clause ← specifierList .exportClause .exportSpecifier
    let source ← if ← seesWord "from" then fromClause else pure []
    build .exportStatement (front ++ type :: clause :: source ++ (← semicolon))
  else if ← seesWord "as" then
    let as' ← token "as"
    let namespace' ← keyword "namespace"
    let name ← wordAs .identifier
    build .exportStatement (front ++ as' :: namespace' :: name :: (← semicolon))
  else if ← sees "@" then
    let inner ← classDeclaration go (← decorators go)
    build .exportStatement (front ++ [inner.as .declaration])
  else
    match ← declaration go with
    | some inner => build .exportStatement (front ++ [inner.as .declaration])
    | none => refuse

/-! ## Control flow -/

/-- A condition in parentheses. -/
def condition (go : Rules) (role : String) : Reader Node := do
  return (← parenthesized go).as (.role role)

/-- A choice between two statements. -/
def ifStatement (go : Rules) : Reader Node := do
  let if' ← token "if"
  let test ← condition go "condition"
  let yes ← go .statement
  let no ← if ← seesWord "else" then
      let else' ← token "else"
      pure [(← build .elseClause [else', ← go .statement]).as (.role "alternative")]
    else pure []
  build .ifStatement (if' :: test :: yes.as (.role "consequence") :: no)

/-- The head of a loop over the members of a value. -/
def loopHead (go : Rules) : Reader (List Node) := do
  let text ← word
  let declares ← if ["var", "let", "const"].contains text then
      afterWord do
        return (← sees openBrace) || (← sees "[") ||
          ((← seesAnyWord) && !(← seesWord "in") && !(← seesWord "of"))
    else pure false
  let left ← if declares then
      let keyword ← token text
      let name ← declaredName go
      pure [keyword.as (.role "kind"), name.as .left]
    else
      let place ← if (← sees openBrace) || (← sees "[") then go .binding
        else go .place
      if !(isPlace place.kind || place.kind = .objectPattern || place.kind = .arrayPattern ||
          place.kind = .parenthesizedExpression) then refuse
      pure [place.as .left]
  let operator ← if ← seesWord "in" then token "in" else keyword "of"
  let right ← sequence go .inner
  return left ++ [operator.as (.role "operator"), right.as .right]

/-- A loop with a start, a condition and a step. -/
def countingHead (go : Rules) : Reader (List Node) := do
  let text ← word
  let start ← if ← sees ";" then
      let mark ← token ";"
      pure [(← build .emptyStatement [mark]).as (.role "initializer")]
    else if ["var", "let", "const"].contains text then
      match ← optional (variableDeclaration go text) with
      | some node => pure [node.as (.role "initializer")]
      | none => pure [(← sequence go .inner).as (.role "initializer"), ← token ";"]
    else pure [(← sequence go .inner).as (.role "initializer"), ← token ";"]
  let test ← if ← sees ";" then
      let mark ← token ";"
      pure [(← build .emptyStatement [mark]).as (.role "condition")]
    else
      let test ← sequence go .inner
      pure [test.as (.role "condition"), (← token ";").as (.role "condition")]
  let step ← if ← sees ")" then pure []
    else pure [(← sequence go .inner).as (.role "increment")]
  return start ++ test ++ step

/-- A loop with a head. -/
def forStatement (go : Rules) : Reader Node := do
  let for' ← token "for"
  let await ← if ← seesWord "await" then pure [← token "await"] else pure []
  let opening ← token "("
  match ← optional (loopHead go) with
  | some head =>
    let closing ← token ")"
    let body ← go .statement
    build .forInStatement (for' :: await ++ opening :: head ++ [closing, body.as .body])
  | none =>
    let head ← countingHead go
    let closing ← token ")"
    let body ← go .statement
    build .forStatement (for' :: opening :: head ++ [closing, body.as .body])

/-- The statements of one case. -/
def caseStatements (go : Rules) : Reader (List Node) := many do
  if (← sees closeBrace) || (← seesWord "case") || (← seesWord "default") then return none
  return some [(← go .statement).as .body]

/-- A choice by value. -/
def switchStatement (go : Rules) : Reader Node := do
  let switch ← token "switch"
  let subject ← condition go "value"
  let opening ← token openBrace
  let cases ← many do
    if ← seesWord "case" then
      let case' ← token "case"
      let value ← sequence go .inner
      let colon ← token ":"
      return some [← build .switchCase
        (case' :: value.as .value :: colon :: (← caseStatements go))]
    else if ← seesWord "default" then
      let default ← token "default"
      let colon ← token ":"
      return some [← build .switchDefault (default :: colon :: (← caseStatements go))]
    else return none
  let body ← build .switchBody (opening :: cases ++ [← token closeBrace])
  build .switchStatement [switch, subject.as .value, body.as .body]

/-- A block with handlers. -/
def tryStatement (go : Rules) : Reader Node := do
  let try' ← token "try"
  let body ← go .block
  let handler ← if ← seesWord "catch" then
      let catch' ← token "catch"
      let parameter ← if ← sees "(" then
          let opening ← token "("
          let name ← declaredName go
          let annotation ← optionalTypeMark go .inner
          pure (opening :: name.as .parameter :: annotation ++ [← token ")"])
        else pure []
      let body ← go .block
      pure [(← build .catchClause (catch' :: parameter ++ [body.as .body])).as (.role "handler")]
    else pure []
  let finalizer ← if ← seesWord "finally" then
      let finally' ← token "finally"
      let body ← go .block
      pure [(← build .finallyClause [finally', body.as .body]).as (.role "finalizer")]
    else pure []
  build .tryStatement (try' :: body.as .body :: handler ++ finalizer)

/-- A jump with an optional label. -/
def jumpStatement (kind : Kind) (text : String) : Reader Node := do
  let keyword ← token text
  let label ← if !(← endsHere) && (← seesAnyWord) then
      pure [(← wordAs .statementIdentifier).as (.role "label")]
    else pure []
  build kind (keyword :: label ++ (← semicolon))

/-- The tokens that no export has behind its first word. -/
def nameContinuations : List Char :=
  [';', '.', '(', '[', '?', ',', '+', '-', '/', '%', '&', '|', '^', '<', '>', '!']

/-- Is the word before the cursor a name? A statement may end behind it, or it is used as a
value. -/
def standsAlone : Reader Bool := do
  if ← endsHere then return true
  let byte ← peek
  return nameContinuations.any fun c => c.toNat == byte.toNat

/-- A statement. -/
def statementRule (go : Rules) : Reader Node := do
  let byte ← peek
  if byte == 0x7B then go .block
  else if byte == 0x3B then build .emptyStatement [← token ";"]
  else if byte == 0x40 then
    let marks ← decorators go
    if ← seesWord "export" then exportStatement go marks
    else if ← seesClassDeclaration then classDeclaration go marks
    else refuse
  else
    let text ← word
    match text with
    | "" => expressionStatement go
    | "export" =>
      if ← afterWord standsAlone then expressionStatement go else exportStatement go []
    | "import" =>
      if ← afterWord (do return (← sees "(") || (← sees ".")) then expressionStatement go
      else
        let requires ← afterWord (afterWord (do
          if (← sees "=") then
            fun source cursor =>
              let start := Lexeme.skipTrivia source (cursor.next + 1)
              .found (Lexeme.startsWith source start "require".toList &&
                Lexeme.wordStop source start == start + 7) cursor
          else return false))
        if requires then importStatement go
        else
          match ← declaration go with
          | some node => return node
          | none => importStatement go
    | "debugger" =>
      let keyword ← token text
      build .debuggerStatement (keyword :: (← semicolon))
    | "if" => ifStatement go
    | "switch" => switchStatement go
    | "for" => forStatement go
    | "while" =>
      let while' ← token "while"
      let test ← condition go "condition"
      build .whileStatement [while', test, (← go .statement).as .body]
    | "do" =>
      let do' ← token "do"
      let body ← go .statement
      let while' ← keyword "while"
      let test ← condition go "condition"
      let ending ← if ← sees ";" then pure [← token ";"] else pure []
      build .doStatement ([do', body.as .body, while', test] ++ ending)
    | "try" => tryStatement go
    | "with" =>
      let with' ← token "with"
      let subject ← condition go "object"
      build .withStatement [with', subject, (← go .statement).as .body]
    | "break" => jumpStatement .breakStatement text
    | "continue" => jumpStatement .continueStatement text
    | "return" =>
      let return' ← token "return"
      if (← endsHere) || (← sees ";") then
        build .returnStatement (return' :: (← semicolon))
      else
        let value ← sequence go .atEnd
        build .returnStatement (return' :: value :: (← semicolon))
    | "throw" =>
      let throw' ← token "throw"
      let value ← sequence go .atEnd
      build .throwStatement (throw' :: value :: (← semicolon))
    | _ =>
      if (← afterWord (sees ":")) && !expressionWords.contains text then
        let label ← wordAs .statementIdentifier
        let colon ← token ":"
        build .labeledStatement [label.as (.role "label"), colon, (← go .statement).as .body]
      else if text == "namespace" then expressionStatement go
      else
        match ← declaration go with
        | some node => return node
        | none => expressionStatement go

end Lectern.Syntax.Grammar
