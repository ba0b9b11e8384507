/-
Module: Lectern.Syntax.Grammar.Expressions
Purpose: How expressions are written: operands, what may follow an operand, and operators by level.
Main exports: expressionRule, sequence, argumentListRule, classTail
-/
import Lectern.Syntax.Grammar.Markup
import Lectern.Syntax.Grammar.Patterns
import Lectern.Syntax.Grammar.Types

namespace Lectern.Syntax.Grammar

open Reader

/-- One expression or several with commas between. -/
def sequence (go : Rules) (site : Site) : Reader Node := do
  let first ← go (.expression site assignmentLevel)
  if ← sees "," then
    let rest ← many do
      if ← sees "," then
        let comma ← token ","
        return some [comma, ← go (.expression site assignmentLevel)]
      else return none
    build .sequenceExpression (first :: rest)
  else return first

/-- An expression that stands for several values. -/
def spreadElement (go : Rules) : Reader Node := do
  let dots ← token "..."
  build .spreadElement [dots, ← go (.expression .inner assignmentLevel)]

/-- One argument or one item of an array. -/
def listItem (go : Rules) : Reader (List Node) := do
  if ← sees "..." then return [← spreadElement go]
  else return [← go (.expression .inner assignmentLevel)]

/-- The arguments of a call. -/
def argumentListRule (go : Rules) : Reader Node := do
  let opening ← token "("
  let items ← sparse (listItem go) ")"
  build .arguments (opening :: items ++ [← token ")"])

/-! ## Functions and classes as expressions -/

/-- A function from its `function` keyword on, with the keywords before it. -/
def functionExpression (go : Rules) (front : List Node) : Reader Node := do
  let function ← token "function"
  let star ← if ← sees "*" then pure [← token "*"] else pure []
  let name ← if (← sees "(") || (← sees "<") then pure []
    else pure [(← wordAs .identifier).as .name]
  let signature ← callSignature go .inner
  let body ← go .block
  build (if star.isEmpty then .functionExpression else .generatorFunction)
    (front ++ function :: star ++ name ++ signature ++ [body.as .body])

/-- What a class extends and implements. -/
def classHeritage (go : Rules) : Reader (List Node) := do
  let extended ← if ← seesWord "extends" then
      let extends' ← token "extends"
      let single : Reader (List Node) := do
        let value ← go (.expression .inner operandLevel)
        let arguments ← if ← sees "<" then
            pure [(← go .typeArguments).as (.role "type_arguments")]
          else pure []
        return value.as .value :: arguments
      let first ← single
      let rest ← many do
        if ← sees "," then
          let comma ← token ","
          return some (comma :: (← single))
        else return none
      pure [← build .extendsClause (extends' :: first ++ rest)]
    else pure []
  let implemented ← if ← seesWord "implements" then
      let implements' ← token "implements"
      let first ← go (.type .inner 0)
      let rest ← many do
        if ← sees "," then
          let comma ← token ","
          return some [comma, ← go (.type .inner 0)]
        else return none
      pure [← build .implementsClause (implements' :: first :: rest)]
    else pure []
  let parts := extended ++ implemented
  if parts.isEmpty then return [] else return [← build .classHeritage parts]

/-- A class from its name on. -/
def classTail (go : Rules) : Reader (List Node) := do
  let generics ← optionalTypeParameters go
  let heritage ← classHeritage go
  let body ← go .classBody
  return generics ++ heritage ++ [body.as .body]

/-- A class as an expression. -/
def classExpression (go : Rules) : Reader Node := do
  let marks ← decorators go
  let class' ← keyword "class"
  let text ← word
  let name ← if text == "" || text == "extends" || text == "implements" then pure []
    else pure [(← wordAs .typeIdentifier).as .name]
  build .classExpression (marks ++ class' :: name ++ (← classTail go))

/-! ## Arrow functions -/

/-- The head of an arrow function with parentheses, its arrow included. -/
def arrowHead (go : Rules) (site : Site) : Reader (List Node) := do
  let generics ← optionalTypeParameters go
  let parameters ← go .parameters
  let result ← if !site.plainHeads && (← sees ":") then
      pure [(← go (.returnType .inner)).as (.role "return_type")]
    else pure []
  let arrow ← token "=>"
  if !result.isEmpty then
    fun _ cursor => .found () { cursor with typedHeads := cursor.typedHeads + 1 }
  return generics ++ parameters.as (.role "parameters") :: result ++ [arrow]

/-- The body of an arrow function whose head has been read. -/
def arrowRest (go : Rules) (site : Site) (head : List Node) : Reader Node := do
  let body ← if ← sees openBrace then go .block else go (.expression site assignmentLevel)
  build .arrowFunction (head ++ [body.as .body])

/-- The head of an arrow function with a single name. -/
def arrowName : Reader (List Node) := do
  let name ← boundName
  return [name.as .parameter, ← token "=>"]

/-! ## Operands -/

/-- An expression in parentheses. -/
def parenthesized (go : Rules) : Reader Node := do
  let opening ← token "("
  let inner ← sequence go .inner
  let annotation ← if inner.kind = .sequenceExpression then pure []
    else optionalTypeMark go .inner
  build .parenthesizedExpression (opening :: inner :: annotation ++ [← token ")"])

/-- An array. -/
def arrayLiteral (go : Rules) : Reader Node := do
  let opening ← token "["
  let items ← sparse (listItem go) "]"
  build .arrayLiteral (opening :: items ++ [← token "]"])

/-- One property of an object. -/
def objectProperty (go : Rules) : Reader Node := do
  if ← sees "..." then spreadElement go
  else
    let modifiers ← many do
      let text ← word
      if ["async", "get", "set", "static"].contains text && (← nameFollows) then
        return some [← token text]
      else return none
    let star ← if ← sees "*" then pure [← token "*"] else pure []
    let name ← propertyName go
    let front := modifiers ++ star
    if (← sees "(") || (← sees "<") then
      let signature ← callSignature go .inner
      let body ← go .block
      build .methodDefinition (front ++ name.as .name :: signature ++ [body.as .body])
    else if !front.isEmpty then refuse
    else if ← sees ":" then
      let colon ← token ":"
      let value ← go (.expression .inner assignmentLevel)
      build .pair [name.as .key, colon, value.as .value]
    else if name.kind = .propertyIdentifier then
      return { name with kind := .shorthandPropertyIdentifier }
    else refuse

/-- An object. -/
def objectLiteral (go : Rules) : Reader Node := do
  let opening ← token openBrace
  let items ← sparse (do return [← objectProperty go]) closeBrace
  build .objectLiteral (opening :: items ++ [← token closeBrace])

/-- An assignment that takes a value apart. -/
def patternAssignment (go : Rules) : Reader (List Node) := do
  let pattern ← go .binding
  if (← sees "==") || (← sees "=>") then refuse
  return [pattern.as .left, ← token "="]

/-- A regular expression. -/
def regexLeaf : Reader Node := fun source cursor =>
  match Lexeme.regexStop source cursor.next with
  | some stop => leafTo .regexLiteral stop source cursor
  | none => refuse source cursor

/-- A prefix operator and its operand. -/
def prefixed (go : Rules) (site : Site) (kind : Kind) (operator : String) : Reader Node := do
  let operator ← token operator
  let argument ← go (.expression site operandLevel)
  build kind [operator.as (.role "operator"), argument.as (.role "argument")]

/-- Does the line go on after the next word, as far as this place asks? -/
def lineGoesOn (site : Site) : Reader Bool := do
  if site.endable then return !(← afterWord endsHere) else return true

/-- An operand that starts with a word. -/
def wordOperand (go : Rules) (site : Site) (newOperand : Reader Node) (text : String) :
    Reader Node := do
  match text with
  | "function" => functionExpression go []
  | "class" => classExpression go
  | "new" => newOperand
  | "typeof" | "void" | "delete" => prefixed go site .unaryExpression text
  | "await" =>
    let await ← token "await"
    build .awaitExpression [await, ← go (.expression site operandLevel)]
  | "yield" =>
    let yield ← token "yield"
    if site.endable && (← endsHere) then build .yieldExpression [yield]
    else if ← sees "*" then
      let star ← token "*"
      build .yieldExpression [yield, star, ← go (.expression site assignmentLevel)]
    else
      match ← optional (go (.expression site assignmentLevel)) with
      | some value => build .yieldExpression [yield, value]
      | none => build .yieldExpression [yield]
  | "this" => wordAs .thisKeyword
  | "super" => wordAs .superKeyword
  | "true" => wordAs .trueLiteral
  | "false" => wordAs .falseLiteral
  | "null" => wordAs .nullLiteral
  | "undefined" => wordAs .undefinedLiteral
  | "import" =>
    let import' ← wordAs .importKeyword
    if (← sees ".") && (← peek 1) == 0x6D then
      let dot ← token "."
      if ← seesWord "meta" then
        build .metaProperty [{ import' with kind := .lexeme "import", named := false }, dot,
          ← token "meta"]
      else
        let name ← wordAs .propertyIdentifier
        build .memberExpression [import'.as (.role "object"), dot, name.as (.role "property")]
    else if (← sees "(") || (← sees ".") || (← sees "<") then return import'
    else refuse
  | "namespace" =>
    if (← lineGoesOn site) && (← afterWord seesAnyWord) then
      let namespace' ← token "namespace"
      let name ← wordAs .identifier
      let rec qualified : Nat → Node → Reader Node
        | 0, left => pure left
        | fuel + 1, left => do
          if ← sees "." then
            let dot ← token "."
            let name ← wordAs .propertyIdentifier
            qualified fuel (← build .nestedIdentifier
              [left.as (.role "object"), dot, name.as (.role "property")])
          else return left
      let name ← qualified (← getSource).size name
      let body ← if ← sees openBrace then pure [(← go .block).as .body] else pure []
      build .namespaceDeclaration (namespace' :: name.as .name :: body)
    else wordAs .identifier
  | "async" =>
    if ← lineGoesOn site then
      if ← afterWord (seesWord "function") then
        let async ← token "async"
        functionExpression go [async]
      else
        let head ← speculate do
          let async ← token "async"
          return async :: (← either arrowName (arrowHead go site))
        match head with
        | some head => arrowRest go site head
        | none => wordAs .identifier
    else wordAs .identifier
  | "using" =>
    if (← lineGoesOn site) && (← afterWord seesAnyWord) then
      let using' ← token "using"
      let place ← go .target
      let equals ← token "="
      let value ← go (.expression site assignmentLevel)
      build .assignmentExpression [using', place.as .left, equals, value.as .right]
    else wordAs .identifier
  | _ => wordAs .identifier

/-- An operand, with nothing behind it. -/
def operand (go : Rules) (site : Site) (newOperand : Reader Node) : Reader Node := do
  let byte ← peek
  match byte with
  | 0x28 =>
    match ← speculate (arrowHead go site) with
    | some head => arrowRest go site head
    | none => parenthesized go
  | 0x5B =>
    match ← speculate (patternAssignment go) with
    | some front =>
      let value ← go (.expression site assignmentLevel)
      build .assignmentExpression (front ++ [value.as .right])
    | none => arrayLiteral go
  | 0x7B =>
    match ← speculate (patternAssignment go) with
    | some front =>
      let value ← go (.expression site assignmentLevel)
      build .assignmentExpression (front ++ [value.as .right])
    | none => objectLiteral go
  | 0x3C =>
    match ← speculate (arrowHead go site) with
    | some head => arrowRest go site head
    | none => go .element
  | 0x60 => template .templateString .templateSubstitution (sequence go .inner)
  | 0x22 | 0x27 => stringLeaf
  | 0x2F => regexLeaf
  | 0x23 => privateName
  | 0x40 => classExpression go
  | 0x21 => prefixed go site .unaryExpression "!"
  | 0x7E => prefixed go site .unaryExpression "~"
  | 0x2B =>
    if ← sees "++" then prefixed go site .updateExpression "++"
    else prefixed go site .unaryExpression "+"
  | 0x2D =>
    if ← sees "--" then prefixed go site .updateExpression "--"
    else prefixed go site .unaryExpression "-"
  | _ =>
    if Lexeme.isDigit byte || byte == 0x2E then numberLeaf
    else
      let text ← word
      if text == "" then refuse
      else if !expressionWords.contains text then
        match ← optional arrowName with
        | some head => arrowRest go site head
        | none => wordOperand go site newOperand text
      else wordOperand go site newOperand text

/-! ## What follows an operand -/

/-- Could an operand start here? -/
def seesOperand : Reader Bool := do
  let byte ← peek
  let text ← word
  if text != "" then return !(["as", "satisfies", "in", "instanceof", "of"].contains text)
  return Lexeme.isDigit byte ||
    ("\x22\x27\x60([\x7b/<+-!~#@".toList.any fun c => c.toNat == byte.toNat)

/-- Type arguments behind an operand: of a call, or on their own where no operand follows. -/
def genericTail (go : Rules) (site : Site) (left : Node) : Reader Node := do
  let arguments ← go .typeArguments
  let arguments := arguments.as (.role "type_arguments")
  if ← sees "(" then
    let values ← go .argumentList
    build .callExpression [left.as (.role "function"), arguments, values.as (.role "arguments")]
  else if site.endable && (← endsHere) then
    build .instantiationExpression [left, arguments]
  else if ← seesOperand then refuse
  else build .instantiationExpression [left, arguments]

/-- Members, calls and assertions behind an operand. -/
def chain (go : Rules) (site : Site) (calls : Bool) : Nat → Node → Reader Node
  | 0, left => pure left
  | fuel + 1, left => do
    if left.kind = .arrowFunction || left.kind = .yieldExpression ||
        left.kind = .assignmentExpression then return left
    if site.endable && (← endsHere) then return left
    let byte ← peek
    match byte with
    | 0x2E =>
      let dot ← token "."
      let name ← if ← sees "#" then privateName else wordAs .propertyIdentifier
      chain go site calls fuel (← build .memberExpression
        [left.as (.role "object"), dot, name.as (.role "property")])
    | 0x3F =>
      if !(← sees "?.") || Lexeme.isDigit (← peek 2) then return left
      let mark ← token "?."
      let link : Node := ⟨.optionalChain, true, mark.start, mark.stop,
        some (.role "optional_chain"), false, [mark]⟩
      if ← sees "(" then
        let values ← go .argumentList
        chain go site calls fuel (← build .callExpression
          [left.as (.role "function"), mark, values.as (.role "arguments")])
      else if ← sees "<" then
        let generics ← go .typeArguments
        let values ← go .argumentList
        chain go site calls fuel (← build .callExpression
          [left.as (.role "function"), mark, generics.as (.role "type_arguments"),
            values.as (.role "arguments")])
      else if ← sees "[" then
        let opening ← token "["
        let index ← sequence go .inner
        chain go site calls fuel (← build .subscriptExpression
          [left.as (.role "object"), link, opening, index.as (.role "index"), ← token "]"])
      else
        let name ← if ← sees "#" then privateName else wordAs .propertyIdentifier
        chain go site calls fuel (← build .memberExpression
          [left.as (.role "object"), link, name.as (.role "property")])
    | 0x5B =>
      let opening ← token "["
      let index ← sequence go .inner
      chain go site calls fuel (← build .subscriptExpression
        [left.as (.role "object"), opening, index.as (.role "index"), ← token "]"])
    | 0x28 =>
      if !calls then return left
      let values ← go .argumentList
      chain go site calls fuel (← build .callExpression
        [left.as (.role "function"), values.as (.role "arguments")])
    | 0x60 =>
      if !calls then return left
      let text ← template .templateString .templateSubstitution (sequence go .inner)
      chain go site calls fuel (← build .callExpression
        [left.as (.role "function"), text.as (.role "arguments")])
    | 0x21 =>
      if ← sees "!=" then return left
      chain go site calls fuel (← build .nonNullExpression [left, ← token "!"])
    | 0x3C =>
      if !calls || (← sees "<=") || (← sees "<<") then return left
      match ← speculate (genericTail go site left) with
      | some node => chain go site calls fuel node
      | none => return left
    | _ => return left

/-- A constructor call. -/
def newExpression (go : Rules) (site : Site) : Reader Node := do
  let new ← token "new"
  if (← sees ".") then
    let dot ← token "."
    build .metaProperty [new, dot, ← keyword "target"]
  else
    let base ← operand go site refuse
    let constructor ← chain go site false (← getSource).size base
    let generics ← if ← sees "<" then
        let arguments ← speculate do
          let arguments ← go .typeArguments
          if (← sees "(") || (site.endable && (← endsHere)) || !(← seesOperand) then
            return arguments
          else refuse
        match arguments with
        | some arguments => pure [arguments.as (.role "type_arguments")]
        | none => pure []
      else pure []
    let values ← if ← sees "(" then
        pure [(← go .argumentList).as (.role "arguments")]
      else pure []
    build .newExpression (new :: constructor.as (.role "constructor") :: generics ++ values)

/-- The operators that combine a place's value with another. -/
def augmentedOperators : List String :=
  [">>>=", "**=", "<<=", ">>=", "&&=", "||=", "??=", "+=", "-=", "*=", "/=", "%=", "^=", "&=",
    "|="]

/-- Read the first of some tokens that is next. -/
def firstOf : List String → Reader (Option String)
  | [] => pure none
  | text :: rest => do if ← sees text then return some text else firstOf rest

/-- An operand with the members, calls and assertions behind it. -/
def placeRule (go : Rules) (site : Site) : Reader Node := do
  let base ← operand go site (newExpression go site)
  chain go site true (← getSource).size base

/-- An operand with what follows it, or an assignment to it. -/
def operandWithTail (go : Rules) (site : Site) : Reader Node := do
  let left ← placeRule go site
  if site.endable && (← endsHere) then return left
  if (← sees "++") || (← sees "--") then
    let operator ← if ← sees "++" then token "++" else token "--"
    build .updateExpression [left.as (.role "argument"), operator.as (.role "operator")]
  else if !isPlace left.kind && left.kind != .parenthesizedExpression then return left
  else if (← sees "=") && !(← sees "==") && !(← sees "=>") then
    let equals ← token "="
    let value ← go (.expression site assignmentLevel)
    build .assignmentExpression [left.as .left, equals, value.as .right]
  else
    match ← firstOf augmentedOperators with
    | none => return left
    | some text =>
      let operator ← token text
      let value ← go (.expression site assignmentLevel)
      build .augmentedAssignmentExpression
        [left.as .left, operator.as (.role "operator"), value.as .right]

/-! ## Operators by level -/

/-- The operators between two operands, longer ones first, with their levels. -/
def binaryOperators : List (String × Nat) :=
  [("===", 9), ("!==", 9), (">>>", 11), ("**", 14), ("<<", 11), (">>", 11), ("<=", 10),
    (">=", 10), ("==", 9), ("!=", 9), ("&&", 5), ("||", 4), ("??", 3), ("*", 13), ("/", 13),
    ("%", 13), ("+", 12), ("-", 12), ("<", 10), (">", 10), ("&", 8), ("^", 7), ("|", 6)]

/-- The level of the operators that are words. -/
def wordOperatorLevel : Nat := 10

/-- The level of a conditional. -/
def conditionalLevel : Nat := 2

/-- The operator between two operands that comes next. -/
def nextOperator : Reader (Option (String × Nat)) := fun source cursor =>
  let found := binaryOperators.find? fun (text, _) =>
    Lexeme.startsWith source cursor.next text.toList
  match found with
  | some (text, level) =>
    let assigns := Lexeme.at? source (cursor.next + text.length) '=' &&
      !(["===", "!==", "<=", ">=", "==", "!="].contains text)
    .found (if assigns then none else some (text, level)) cursor
  | none =>
    let isWord := fun (text : String) =>
      Lexeme.startsWith source cursor.next text.toList &&
        Lexeme.wordStop source cursor.next == cursor.next + text.length
    if isWord "in" then .found (some ("in", wordOperatorLevel)) cursor
    else if isWord "instanceof" then .found (some ("instanceof", wordOperatorLevel)) cursor
    else .found none cursor

/-- The first branch of a conditional and the colon behind it. -/
def conditionalBranch (go : Rules) (site : Site) : Reader (Node × Node) := do
  let yes ← go (.expression site assignmentLevel)
  return (yes, ← token ":")

/-- The first branch of a conditional. An arrow function in it may have taken the colon that the
conditional needs for its own return type; then the branch is read again without return types. -/
def conditionalFirst (go : Rules) : Reader (Node × Node) := fun source cursor =>
  match conditionalBranch go .inner source cursor with
  | .found value cursor => .found value cursor
  | .refused learnt =>
    if learnt.typedHeads == cursor.typedHeads then .refused learnt
    else conditionalBranch go { plainHeads := true } source (Cursor.back cursor learnt)

/-- The rest of a conditional whose condition has been read. -/
def conditionalRest (go : Rules) (site : Site) (condition : Node) : Reader Node := do
  let mark ← token "?"
  let (yes, colon) ← conditionalFirst go
  let no ← go (.expression site assignmentLevel)
  build .ternaryExpression [condition.as (.role "condition"), mark,
    yes.as (.role "consequence"), colon, no.as (.role "alternative")]

/-- The operators behind an operand that bind at least as tightly as a level asks. -/
def operatorTail (go : Rules) (site : Site) (level : Nat) : Nat → Node → Reader Node
  | 0, left => pure left
  | fuel + 1, left => do
    if site.endable && (← endsHere) then return left
    let asWord ← seesWord "as"
    let satisfiesWord ← seesWord "satisfies"
    if (asWord || satisfiesWord) && level ≤ wordOperatorLevel then
      let operator ← token (if asWord then "as" else "satisfies")
      let type ← if asWord && (← seesWord "const") then token "const"
        else go (.type site 0)
      operatorTail go site level fuel (← build
        (if asWord then .asExpression else .satisfiesExpression) [left, operator, type])
    else if (← sees "?") && level ≤ conditionalLevel && !(← sees "??") &&
        (!(← sees "?.") || Lexeme.isDigit (← peek 2)) then
      operatorTail go site level fuel (← conditionalRest go site left)
    else
      match ← nextOperator with
      | none => return left
      | some (text, tightness) =>
        if tightness < level || level ≥ operandLevel then return left
        let operator ← token text
        let right ← go (.expression site (if text == "**" then tightness else tightness + 1))
        operatorTail go site level fuel (← build .binaryExpression
          [left.as .left, operator.as (.role "operator"), right.as .right])

/-- An expression whose operators bind at least as tightly as a level asks. -/
def expressionRule (go : Rules) (site : Site) (level : Nat) : Reader Node := do
  let left ← operandWithTail go site
  if level ≥ operandLevel then return left
  operatorTail go site level (← getSource).size left

end Lectern.Syntax.Grammar
