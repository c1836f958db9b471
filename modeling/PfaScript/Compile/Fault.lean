import PfaScript.Script.Load

/-!
# Faults in scripts

Every way in which a script can fail to become a document. A `Cause` says what is wrong, its `kind`
which of the 26 classes it belongs to and its `message` how it is worded; a `Fault` adds the place
in the source file.
-/

namespace PfaScript

/-- The classes of faults. -/
inductive Kind where
  | malformedAst
  | unsupportedLiteralKind
  | invalidObjectKey
  | invalidFunctionName
  | unrecognizedMemberExpression
  | unsupportedOperator
  | arityError
  | invalidStateAccess
  | invalidConstructorForm
  | invalidDeclarationTarget
  | unsupportedUpdateTarget
  | invalidCompoundAssignment
  | invalidAssignmentForm
  | invalidFunctionDefinition
  | unsupportedConstruct
  | invalidForInit
  | invalidForStep
  | invalidForInTarget
  | invalidThrowForm
  | unrecognizedStatement
  | invalidSlotDeclaration
  | invalidTopLevelStatement
  | unrecognizedField
  | invalidFieldValue
  | duplicateField
  | missingRequiredField
deriving DecidableEq, Repr

/-- The name of a class of faults. -/
def Kind.name : Kind → String
  | .malformedAst => "MalformedAst"
  | .unsupportedLiteralKind => "UnsupportedLiteralKind"
  | .invalidObjectKey => "InvalidObjectKey"
  | .invalidFunctionName => "InvalidFunctionName"
  | .unrecognizedMemberExpression => "UnrecognizedMemberExpression"
  | .unsupportedOperator => "UnsupportedOperator"
  | .arityError => "ArityError"
  | .invalidStateAccess => "InvalidStateAccess"
  | .invalidConstructorForm => "InvalidConstructorForm"
  | .invalidDeclarationTarget => "InvalidDeclarationTarget"
  | .unsupportedUpdateTarget => "UnsupportedUpdateTarget"
  | .invalidCompoundAssignment => "InvalidCompoundAssignment"
  | .invalidAssignmentForm => "InvalidAssignmentForm"
  | .invalidFunctionDefinition => "InvalidFunctionDefinition"
  | .unsupportedConstruct => "UnsupportedConstruct"
  | .invalidForInit => "InvalidForInit"
  | .invalidForStep => "InvalidForStep"
  | .invalidForInTarget => "InvalidForInTarget"
  | .invalidThrowForm => "InvalidThrowForm"
  | .unrecognizedStatement => "UnrecognizedStatement"
  | .invalidSlotDeclaration => "InvalidSlotDeclaration"
  | .invalidTopLevelStatement => "InvalidTopLevelStatement"
  | .unrecognizedField => "UnrecognizedField"
  | .invalidFieldValue => "InvalidFieldValue"
  | .duplicateField => "DuplicateField"
  | .missingRequiredField => "MissingRequiredField"

/-- The two stores of a document's shared state. -/
inductive Store where
  | cells
  | pools
deriving DecidableEq, Repr

/-- The field of a document that declares a store. -/
def Store.field : Store → String
  | .cells => "cells"
  | .pools => "pools"

/-- One slot of a store, and the function that reads and writes it. -/
def Store.slot : Store → String
  | .cells => "cell"
  | .pools => "pool"

/-- What is wrong with a script. -/
inductive Cause where
  | malformed (cause : Malformed)
  /-- A regular expression where a constant is needed. -/
  | patternConstant
  /-- A regular expression as an expression. -/
  | patternExpression
  | arrayHole
  | notAConstant (tag : String)
  | objectKey
  | reservedKey
  | functionName
  | memberAccess
  | unaryOperator (operator : String)
  | binaryOperator (operator : String)
  | docArguments
  | stateArity (store : Store) (most : Nat)
  | stateName (store : Store)
  | statePath (store : Store)
  | constructor
  | constructorArity (name : String)
  | constructorContents (name brackets : String)
  | constructorType (name : String)
  | constructorHole
  | declarationTarget
  | uninitialized (name : String)
  | updateTarget (operator : String)
  | assignmentOperator (operator : String)
  | assignmentTarget
  /-- A function is combined with a compound assignment. -/
  | functionUpdate (operator : String)
  /-- A comma-separated assignment that is not plain. -/
  | sequenceOperator (operator : String)
  | sequenceTarget
  | sequenceItem
  | functionForm
  | functionShape
  | functionParameter
  | untypedParameter (name : String)
  | construct (tag : String)
  | forInit
  | forStep
  | forInTarget
  | thrown
  | statement (tag : String)
  | storeShape (store : Store)
  | slotShape (store : Store) (name : String)
  | slotKey (store : Store) (name key : String)
  | slotFlag (store : Store) (name key : String)
  | slotIncomplete (store : Store) (name key : String)
  | topLevel
  | unknownField (field : String)
  | repeatedField (field : String)
  | missingField (field : String)
  | fieldText (field : String)
  | methodName
  | fieldFunction (field : String)
  | fieldParameters (field : String)
  | actionParameter
  | actionInput
  | functionsShape
  | randomSeed
  | optionsShape
deriving DecidableEq, Repr

namespace Cause

/-- The class that a cause belongs to. -/
def kind : Cause → Kind
  | .malformed _ => .malformedAst
  | .patternConstant | .patternExpression | .arrayHole | .notAConstant _ => .unsupportedLiteralKind
  | .objectKey | .reservedKey => .invalidObjectKey
  | .functionName => .invalidFunctionName
  | .memberAccess => .unrecognizedMemberExpression
  | .unaryOperator _ | .binaryOperator _ => .unsupportedOperator
  | .docArguments | .stateArity _ _ => .arityError
  | .stateName _ | .statePath _ => .invalidStateAccess
  | .constructor | .constructorArity _ | .constructorContents _ _ | .constructorType _
  | .constructorHole => .invalidConstructorForm
  | .declarationTarget | .uninitialized _ => .invalidDeclarationTarget
  | .updateTarget _ => .unsupportedUpdateTarget
  | .assignmentOperator _ => .invalidCompoundAssignment
  | .assignmentTarget | .functionUpdate _ | .sequenceOperator _ | .sequenceTarget =>
    .invalidAssignmentForm
  | .sequenceItem | .construct _ => .unsupportedConstruct
  | .functionForm | .functionShape | .functionParameter | .untypedParameter _ =>
    .invalidFunctionDefinition
  | .forInit => .invalidForInit
  | .forStep => .invalidForStep
  | .forInTarget => .invalidForInTarget
  | .thrown => .invalidThrowForm
  | .statement _ => .unrecognizedStatement
  | .storeShape _ | .slotShape _ _ | .slotKey _ _ _ | .slotFlag _ _ _ | .slotIncomplete _ _ _ =>
    .invalidSlotDeclaration
  | .topLevel => .invalidTopLevelStatement
  | .unknownField _ => .unrecognizedField
  | .repeatedField _ => .duplicateField
  | .missingField _ => .missingRequiredField
  | .fieldText _ | .methodName | .fieldFunction _ | .fieldParameters _ | .actionParameter
  | .actionInput | .functionsShape | .randomSeed | .optionsShape => .invalidFieldValue

/-- The wording of a cause. -/
def message : Cause → String
  | .malformed cause => cause.message
  | .patternConstant => "regular expressions are not JSON values"
  | .patternExpression => "regular expressions have no PFA form"
  | .arrayHole => "array literals may not have holes"
  | .notAConstant tag => s!"not a literal expression: {tag}"
  | .objectKey => "object should contain only string-valued properties"
  | .reservedKey => "\"@\" is reserved for source locations"
  | .functionName => "illegal function name"
  | .memberAccess => "unrecognized member expression"
  | .unaryOperator operator =>
    s!"Javascript's \"{operator}\" unary operator has no PFA translation"
  | .binaryOperator operator =>
    s!"Javascript's \"{operator}\" binary operator has no PFA translation"
  | .docArguments => "\"doc\" takes 1 literal string argument"
  | .stateArity store most => s!"\"{store.slot}\" takes 1-{most} arguments"
  | .stateName store => s!"first argument of \"{store.slot}\" must be its name"
  | .statePath store =>
    s!"second argument of \"{store.slot}\" must be a path in square brackets"
  | .constructor => "new can only be used to create PFA Arrays, Maps, or Records"
  | .constructorArity name => s!"{name} constructor has two arguments, value and type"
  | .constructorContents name brackets =>
    s!"first argument of {name} must be a literal in {brackets} brackets"
  | .constructorType name => s!"second argument of {name} must be a literal type"
  | .constructorHole => "array literals may not have holes"
  | .declarationTarget => "unrecognized variable declaration l-value"
  | .uninitialized name => s!"variable \"{name}\" must be initialized"
  | .updateTarget operator => s!"\"{operator}\" can only be applied to a simple variable name"
  | .assignmentOperator operator => s!"assignment with \"{operator}\" is not handled"
  | .assignmentTarget => "assignments must target a variable name or an attribute path"
  | .functionUpdate operator => s!"can't mix function-updates with {operator}"
  | .sequenceOperator operator => s!"assignment with \"{operator}\" rather than \"=\""
  | .sequenceTarget => "only simple identifiers allowed as lvalues in multi-assignments"
  | .sequenceItem => "comma-separated expressions are only allowed as multiple assignments"
  | .functionForm =>
    "functions must have the form function(x = type, ...) \x7b ... \x7d >> returnType"
  | .functionShape => "function must be anonymous with a block body"
  | .functionParameter => "function parameters must be simple identifiers"
  | .untypedParameter name => s!"parameter \"{name}\" needs a type as its default value"
  | .construct tag => s!"Javascript's \"{tag}\" construct has no PFA translation"
  | .forInit => "initialization of a for loop must be a variable declaration"
  | .forStep => "step of a for loop must assign to simple variable names"
  | .forInTarget =>
    "for-in loop variable must be a single, uninitialized \"var\" declaration"
  | .thrown => "only literal strings can be thrown"
  | .statement tag => s!"unrecognized statement: {tag}"
  | .storeShape store => s!"{store.field} must be an object"
  | .slotShape store name => s!"{store.slot} \"{name}\" must be an object"
  | .slotKey store name key => s!"unrecognized key \"{key}\" in {store.slot} \"{name}\""
  | .slotFlag store name key => s!"\"{key}\" of {store.slot} \"{name}\" must be true or false"
  | .slotIncomplete store name key => s!"{store.slot} \"{name}\" is missing \"{key}\""
  | .topLevel => "top-level statements must be assignments to PFA fields"
  | .unknownField field => s!"unrecognized top-level field \"{field}\""
  | .repeatedField field => s!"field \"{field}\" is assigned twice"
  | .missingField field => s!"required field \"{field}\" is missing"
  | .fieldText field => s!"{field} must be a string"
  | .methodName => "method must be a string or a name"
  | .fieldFunction field => s!"{field} must be an anonymous function with a block body"
  | .fieldParameters field => s!"{field} must not have parameters"
  | .actionParameter =>
    "action parameters may only be \"input\" and \"tally\", each at most once"
  | .actionInput => "action must take an \"input\" parameter"
  | .functionsShape => "fcns must be an object of function definitions"
  | .randomSeed => "randseed must be an integer"
  | .optionsShape => "options must be an object"

end Cause

/-- What is wrong with a script, and where. -/
structure Fault where
  cause : Cause
  span : Option Span
deriving DecidableEq, Repr

namespace Fault

/-- The wording of the place, if it is known. -/
def location (fault : Fault) : Option String :=
  fault.span.map Span.describe

/-- The full wording: class, message and place. -/
def text (fault : Fault) : String :=
  let message := s!"{fault.cause.kind.name}: {fault.cause.message}"
  match fault.location with
  | some location => s!"{message} ({location})"
  | none => message

end Fault

end PfaScript
