/-
Module: Lectern.Syntax.Kind
Purpose: The categories a syntax node can belong to, and the roles a child can play in its parent.
Main exports: Kind, Kind.name, Kind.ofName, Field, Field.ofName
-/

namespace Lectern.Syntax

/--
The category of a syntax node. Named categories are constructors; a keyword or punctuation token is
a `lexeme` whose category is its own text.
-/
inductive Kind where
  | program
  | hashBangLine
  | comment
  | error
  | exportStatement
  | namespaceExport
  | exportClause
  | exportSpecifier
  | importStatement
  | importClause
  | namespaceImport
  | namedImports
  | importSpecifier
  | importAttribute
  | importRequireClause
  | importAlias
  | importKeyword
  | expressionStatement
  | variableDeclaration
  | lexicalDeclaration
  | variableDeclarator
  | statementBlock
  | elseClause
  | ifStatement
  | switchStatement
  | switchBody
  | switchCase
  | switchDefault
  | forStatement
  | forInStatement
  | whileStatement
  | doStatement
  | tryStatement
  | catchClause
  | finallyClause
  | withStatement
  | breakStatement
  | continueStatement
  | debuggerStatement
  | returnStatement
  | throwStatement
  | emptyStatement
  | labeledStatement
  | statementIdentifier
  | identifier
  | propertyIdentifier
  | privatePropertyIdentifier
  | typeIdentifier
  | shorthandPropertyIdentifier
  | shorthandPropertyIdentifierPattern
  | thisKeyword
  | superKeyword
  | trueLiteral
  | falseLiteral
  | nullLiteral
  | undefinedLiteral
  | numberLiteral
  | stringLiteral
  | stringFragment
  | templateString
  | templateSubstitution
  | regexLiteral
  | regexPattern
  | regexFlags
  | parenthesizedExpression
  | sequenceExpression
  | assignmentExpression
  | augmentedAssignmentExpression
  | awaitExpression
  | unaryExpression
  | binaryExpression
  | ternaryExpression
  | updateExpression
  | newExpression
  | yieldExpression
  | asExpression
  | satisfiesExpression
  | nonNullExpression
  | instantiationExpression
  | memberExpression
  | subscriptExpression
  | optionalChain
  | callExpression
  | arguments
  | metaProperty
  | spreadElement
  | objectLiteral
  | pair
  | arrayLiteral
  | computedPropertyName
  | objectPattern
  | pairPattern
  | objectAssignmentPattern
  | arrayPattern
  | assignmentPattern
  | restPattern
  | functionExpression
  | generatorFunction
  | arrowFunction
  | functionDeclaration
  | generatorFunctionDeclaration
  | functionSignature
  | formalParameters
  | requiredParameter
  | optionalParameter
  | classExpression
  | classDeclaration
  | abstractClassDeclaration
  | classHeritage
  | extendsClause
  | implementsClause
  | classBody
  | classStaticBlock
  | methodDefinition
  | methodSignature
  | abstractMethodSignature
  | publicFieldDefinition
  | accessibilityModifier
  | overrideModifier
  | decorator
  | jsxElement
  | jsxFragment
  | jsxOpeningElement
  | jsxClosingElement
  | jsxSelfClosingElement
  | jsxAttribute
  | jsxExpression
  | jsxNamespaceName
  | jsxText
  | htmlCharacterReference
  | ambientDeclaration
  | interfaceDeclaration
  | interfaceBody
  | extendsTypeClause
  | typeAliasDeclaration
  | enumDeclaration
  | enumBody
  | enumAssignment
  | namespaceDeclaration
  | moduleDeclaration
  | nestedIdentifier
  | typeMark
  | typeArguments
  | typeParameters
  | typeParameter
  | typeConstraint
  | defaultType
  | typePredicate
  | typePredicateMark
  | asserts
  | assertsMark
  | predefinedType
  | literalType
  | unionType
  | intersectionType
  | conditionalType
  | functionType
  | constructorType
  | genericType
  | nestedTypeIdentifier
  | objectType
  | arrayType
  | tupleType
  | parenthesizedType
  | readonlyType
  | inferType
  | typeQuery
  | indexTypeQuery
  | lookupType
  | thisType
  | existentialType
  | flowMaybeType
  | templateLiteralType
  | templateType
  | optionalType
  | restType
  | propertySignature
  | callSignature
  | constructSignature
  | indexSignature
  | mappedTypeClause
  | omittingTypeMark
  | addingTypeMark
  | optingTypeMark
  | lexeme (text : String)
  deriving DecidableEq, Repr, Inhabited

namespace Kind

/-- The name a diagnostic or a serialised tree uses for a category. -/
def name : Kind → String
  | .program => "program"
  | .hashBangLine => "hash_bang_line"
  | .comment => "comment"
  | .error => "ERROR"
  | .exportStatement => "export_statement"
  | .namespaceExport => "namespace_export"
  | .exportClause => "export_clause"
  | .exportSpecifier => "export_specifier"
  | .importStatement => "import_statement"
  | .importClause => "import_clause"
  | .namespaceImport => "namespace_import"
  | .namedImports => "named_imports"
  | .importSpecifier => "import_specifier"
  | .importAttribute => "import_attribute"
  | .importRequireClause => "import_require_clause"
  | .importAlias => "import_alias"
  | .importKeyword => "import"
  | .expressionStatement => "expression_statement"
  | .variableDeclaration => "variable_declaration"
  | .lexicalDeclaration => "lexical_declaration"
  | .variableDeclarator => "variable_declarator"
  | .statementBlock => "statement_block"
  | .elseClause => "else_clause"
  | .ifStatement => "if_statement"
  | .switchStatement => "switch_statement"
  | .switchBody => "switch_body"
  | .switchCase => "switch_case"
  | .switchDefault => "switch_default"
  | .forStatement => "for_statement"
  | .forInStatement => "for_in_statement"
  | .whileStatement => "while_statement"
  | .doStatement => "do_statement"
  | .tryStatement => "try_statement"
  | .catchClause => "catch_clause"
  | .finallyClause => "finally_clause"
  | .withStatement => "with_statement"
  | .breakStatement => "break_statement"
  | .continueStatement => "continue_statement"
  | .debuggerStatement => "debugger_statement"
  | .returnStatement => "return_statement"
  | .throwStatement => "throw_statement"
  | .emptyStatement => "empty_statement"
  | .labeledStatement => "labeled_statement"
  | .statementIdentifier => "statement_identifier"
  | .identifier => "identifier"
  | .propertyIdentifier => "property_identifier"
  | .privatePropertyIdentifier => "private_property_identifier"
  | .typeIdentifier => "type_identifier"
  | .shorthandPropertyIdentifier => "shorthand_property_identifier"
  | .shorthandPropertyIdentifierPattern => "shorthand_property_identifier_pattern"
  | .thisKeyword => "this"
  | .superKeyword => "super"
  | .trueLiteral => "true"
  | .falseLiteral => "false"
  | .nullLiteral => "null"
  | .undefinedLiteral => "undefined"
  | .numberLiteral => "number"
  | .stringLiteral => "string"
  | .stringFragment => "string_fragment"
  | .templateString => "template_string"
  | .templateSubstitution => "template_substitution"
  | .regexLiteral => "regex"
  | .regexPattern => "regex_pattern"
  | .regexFlags => "regex_flags"
  | .parenthesizedExpression => "parenthesized_expression"
  | .sequenceExpression => "sequence_expression"
  | .assignmentExpression => "assignment_expression"
  | .augmentedAssignmentExpression => "augmented_assignment_expression"
  | .awaitExpression => "await_expression"
  | .unaryExpression => "unary_expression"
  | .binaryExpression => "binary_expression"
  | .ternaryExpression => "ternary_expression"
  | .updateExpression => "update_expression"
  | .newExpression => "new_expression"
  | .yieldExpression => "yield_expression"
  | .asExpression => "as_expression"
  | .satisfiesExpression => "satisfies_expression"
  | .nonNullExpression => "non_null_expression"
  | .instantiationExpression => "instantiation_expression"
  | .memberExpression => "member_expression"
  | .subscriptExpression => "subscript_expression"
  | .optionalChain => "optional_chain"
  | .callExpression => "call_expression"
  | .arguments => "arguments"
  | .metaProperty => "meta_property"
  | .spreadElement => "spread_element"
  | .objectLiteral => "object"
  | .pair => "pair"
  | .arrayLiteral => "array"
  | .computedPropertyName => "computed_property_name"
  | .objectPattern => "object_pattern"
  | .pairPattern => "pair_pattern"
  | .objectAssignmentPattern => "object_assignment_pattern"
  | .arrayPattern => "array_pattern"
  | .assignmentPattern => "assignment_pattern"
  | .restPattern => "rest_pattern"
  | .functionExpression => "function_expression"
  | .generatorFunction => "generator_function"
  | .arrowFunction => "arrow_function"
  | .functionDeclaration => "function_declaration"
  | .generatorFunctionDeclaration => "generator_function_declaration"
  | .functionSignature => "function_signature"
  | .formalParameters => "formal_parameters"
  | .requiredParameter => "required_parameter"
  | .optionalParameter => "optional_parameter"
  | .classExpression => "class"
  | .classDeclaration => "class_declaration"
  | .abstractClassDeclaration => "abstract_class_declaration"
  | .classHeritage => "class_heritage"
  | .extendsClause => "extends_clause"
  | .implementsClause => "implements_clause"
  | .classBody => "class_body"
  | .classStaticBlock => "class_static_block"
  | .methodDefinition => "method_definition"
  | .methodSignature => "method_signature"
  | .abstractMethodSignature => "abstract_method_signature"
  | .publicFieldDefinition => "public_field_definition"
  | .accessibilityModifier => "accessibility_modifier"
  | .overrideModifier => "override_modifier"
  | .decorator => "decorator"
  | .jsxElement => "jsx_element"
  | .jsxFragment => "jsx_fragment"
  | .jsxOpeningElement => "jsx_opening_element"
  | .jsxClosingElement => "jsx_closing_element"
  | .jsxSelfClosingElement => "jsx_self_closing_element"
  | .jsxAttribute => "jsx_attribute"
  | .jsxExpression => "jsx_expression"
  | .jsxNamespaceName => "jsx_namespace_name"
  | .jsxText => "jsx_text"
  | .htmlCharacterReference => "html_character_reference"
  | .ambientDeclaration => "ambient_declaration"
  | .interfaceDeclaration => "interface_declaration"
  | .interfaceBody => "interface_body"
  | .extendsTypeClause => "extends_type_clause"
  | .typeAliasDeclaration => "type_alias_declaration"
  | .enumDeclaration => "enum_declaration"
  | .enumBody => "enum_body"
  | .enumAssignment => "enum_assignment"
  | .namespaceDeclaration => "internal_module"
  | .moduleDeclaration => "module"
  | .nestedIdentifier => "nested_identifier"
  | .typeMark => "type_annotation"
  | .typeArguments => "type_arguments"
  | .typeParameters => "type_parameters"
  | .typeParameter => "type_parameter"
  | .typeConstraint => "constraint"
  | .defaultType => "default_type"
  | .typePredicate => "type_predicate"
  | .typePredicateMark => "type_predicate_annotation"
  | .asserts => "asserts"
  | .assertsMark => "asserts_annotation"
  | .predefinedType => "predefined_type"
  | .literalType => "literal_type"
  | .unionType => "union_type"
  | .intersectionType => "intersection_type"
  | .conditionalType => "conditional_type"
  | .functionType => "function_type"
  | .constructorType => "constructor_type"
  | .genericType => "generic_type"
  | .nestedTypeIdentifier => "nested_type_identifier"
  | .objectType => "object_type"
  | .arrayType => "array_type"
  | .tupleType => "tuple_type"
  | .parenthesizedType => "parenthesized_type"
  | .readonlyType => "readonly_type"
  | .inferType => "infer_type"
  | .typeQuery => "type_query"
  | .indexTypeQuery => "index_type_query"
  | .lookupType => "lookup_type"
  | .thisType => "this_type"
  | .existentialType => "existential_type"
  | .flowMaybeType => "flow_maybe_type"
  | .templateLiteralType => "template_literal_type"
  | .templateType => "template_type"
  | .optionalType => "optional_type"
  | .restType => "rest_type"
  | .propertySignature => "property_signature"
  | .callSignature => "call_signature"
  | .constructSignature => "construct_signature"
  | .indexSignature => "index_signature"
  | .mappedTypeClause => "mapped_type_clause"
  | .omittingTypeMark => "omitting_type_annotation"
  | .addingTypeMark => "adding_type_annotation"
  | .optingTypeMark => "opting_type_annotation"
  | .lexeme text => text

/-- Every category that is not a token. -/
def categories : List Kind :=
  [.program, .hashBangLine, .comment, .error, .exportStatement, .namespaceExport, .exportClause,
   .exportSpecifier, .importStatement, .importClause, .namespaceImport, .namedImports,
   .importSpecifier, .importAttribute, .importRequireClause, .importAlias, .importKeyword,
   .expressionStatement, .variableDeclaration, .lexicalDeclaration, .variableDeclarator,
   .statementBlock, .elseClause, .ifStatement, .switchStatement, .switchBody, .switchCase,
   .switchDefault, .forStatement, .forInStatement, .whileStatement, .doStatement, .tryStatement,
   .catchClause, .finallyClause, .withStatement, .breakStatement, .continueStatement,
   .debuggerStatement, .returnStatement, .throwStatement, .emptyStatement, .labeledStatement,
   .statementIdentifier, .identifier, .propertyIdentifier, .privatePropertyIdentifier,
   .typeIdentifier, .shorthandPropertyIdentifier, .shorthandPropertyIdentifierPattern,
   .thisKeyword, .superKeyword, .trueLiteral, .falseLiteral, .nullLiteral, .undefinedLiteral,
   .numberLiteral, .stringLiteral, .stringFragment, .templateString, .templateSubstitution,
   .regexLiteral, .regexPattern, .regexFlags, .parenthesizedExpression, .sequenceExpression,
   .assignmentExpression, .augmentedAssignmentExpression, .awaitExpression, .unaryExpression,
   .binaryExpression, .ternaryExpression, .updateExpression, .newExpression, .yieldExpression,
   .asExpression, .satisfiesExpression, .nonNullExpression, .instantiationExpression,
   .memberExpression, .subscriptExpression, .optionalChain, .callExpression, .arguments,
   .metaProperty, .spreadElement, .objectLiteral, .pair, .arrayLiteral, .computedPropertyName,
   .objectPattern, .pairPattern, .objectAssignmentPattern, .arrayPattern, .assignmentPattern,
   .restPattern, .functionExpression, .generatorFunction, .arrowFunction, .functionDeclaration,
   .generatorFunctionDeclaration, .functionSignature, .formalParameters, .requiredParameter,
   .optionalParameter, .classExpression, .classDeclaration, .abstractClassDeclaration,
   .classHeritage, .extendsClause, .implementsClause, .classBody, .classStaticBlock,
   .methodDefinition, .methodSignature, .abstractMethodSignature, .publicFieldDefinition,
   .accessibilityModifier, .overrideModifier, .decorator, .jsxElement, .jsxFragment,
   .jsxOpeningElement, .jsxClosingElement, .jsxSelfClosingElement, .jsxAttribute, .jsxExpression,
   .jsxNamespaceName, .jsxText, .htmlCharacterReference, .ambientDeclaration,
   .interfaceDeclaration, .interfaceBody, .extendsTypeClause, .typeAliasDeclaration,
   .enumDeclaration, .enumBody, .enumAssignment, .namespaceDeclaration, .moduleDeclaration,
   .nestedIdentifier, .typeMark, .typeArguments, .typeParameters, .typeParameter,
   .typeConstraint, .defaultType, .typePredicate, .typePredicateMark, .asserts,
   .assertsMark, .predefinedType, .literalType, .unionType, .intersectionType,
   .conditionalType, .functionType, .constructorType, .genericType, .nestedTypeIdentifier,
   .objectType, .arrayType, .tupleType, .parenthesizedType, .readonlyType, .inferType,
   .typeQuery, .indexTypeQuery, .lookupType, .thisType, .existentialType, .flowMaybeType,
   .templateLiteralType, .templateType, .optionalType, .restType, .propertySignature,
   .callSignature, .constructSignature, .indexSignature, .mappedTypeClause,
   .omittingTypeMark, .addingTypeMark, .optingTypeMark]

/-- The category with a given name; a name that is no category is that of a token. -/
def ofName (text : String) : Kind :=
  (categories.find? fun kind => kind.name == text).getD (.lexeme text)

end Kind

/-- The role a child plays in its parent. Only the roles that a rule asks for are told apart. -/
inductive Field where
  | name
  | value
  | pattern
  | parameter
  | left
  | right
  | key
  | declaration
  | source
  | alias
  | body
  | role (name : String)
  deriving DecidableEq, Repr, Inhabited

/-- The role with a given name. -/
def Field.ofName : String → Field
  | "name" => .name
  | "value" => .value
  | "pattern" => .pattern
  | "parameter" => .parameter
  | "left" => .left
  | "right" => .right
  | "key" => .key
  | "declaration" => .declaration
  | "source" => .source
  | "alias" => .alias
  | "body" => .body
  | text => .role text

end Lectern.Syntax
