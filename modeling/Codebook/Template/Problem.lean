import Codebook.Template.Tree

/-!
# What can go wrong with a template

A template that cannot be read is a syntax error. Everything else goes wrong while the template is
rendered: a `Problem` is what went wrong, its `Category` the kind of failure that is reported, and
a `TemplateError` adds the line.
-/

namespace Codebook.Template

/-- The kinds of failure that are told apart. What is wrong with a test, a method, a block, the
targets of an assignment or another template is an invalid operation, though its words differ. -/
inductive Category where
  | syntaxError
  | undefinedError
  | invalidOperation
  | missingArgument
  | tooManyArguments
  | unknownFunction
  | unknownFilter
  deriving DecidableEq, Repr

/-- A kind of failure in words. -/
def Category.message : Category → Text
  | .syntaxError => "syntax error".toList
  | .undefinedError => "undefined value".toList
  | .invalidOperation => "invalid operation".toList
  | .missingArgument => "missing argument".toList
  | .tooManyArguments => "too many arguments".toList
  | .unknownFunction => "unknown function".toList
  | .unknownFilter => "unknown filter".toList

/-- What went wrong while a template was rendered. -/
inductive Problem where
  /-- A value is needed where there is none. -/
  | undefinedValue
  /-- An operation on values that it is not made for. -/
  | unsupportedTypes (op : Arithmetic) (left right : Kind)
  /-- An operation on integers that has no result. -/
  | cannotCalculate (op : Arithmetic) (left right : Text)
  /-- The negation of something that is no number. -/
  | cannotNegate
  /-- The negation of an integer that has no result. -/
  | negationOverflow
  /-- A text times something that is no count. -/
  | textRepetition
  /-- A text so many times that it would be too long. -/
  | textTooLong
  /-- A list times something that is no count. -/
  | listRepetition
  /-- A search in something that holds nothing. -/
  | noContainment
  /-- A loop over something that has no items. -/
  | notIterable (kind : Kind)
  /-- An argument that has to be a list. -/
  | listExpected
  /-- An argument of the wrong kind. -/
  | cannotConvert (kind : Kind) (expected : Text)
  /-- A map that is to be made of something else. -/
  | mapExpected
  /-- A call of something that is no function. -/
  | notCallable (kind : Kind)
  /-- A call of a loop with more or less than one argument. -/
  | loopArguments
  /-- A call of a loop from inside, though it only goes through its items. -/
  | loopInsideLoop
  /-- A call of a loop where there is none. -/
  | loopOutsideLoop
  /-- A call of what a loop tells about itself. -/
  | loopCalled
  /-- Too many calls of macros, blocks and loops inside each other. -/
  | tooDeep
  /-- A value without a length. -/
  | noLength (kind : Kind)
  /-- A value without a first item. -/
  | noFirst
  /-- A value without a last item. -/
  | noLast
  /-- A value without items to join. -/
  | cannotJoin (kind : Kind)
  /-- A value that no list can be made of. -/
  | cannotList (kind : Kind)
  /-- An operation that its operands do not allow, which says why. -/
  | refused (reason : Text)
  | missingArgument
  | tooManyArguments
  /-- Two arguments with one name. -/
  | argumentTwice (name : Text)
  /-- An argument with a name that no parameter has. -/
  | unknownArgument (name : Text)
  | unknownFunction (name : Text)
  | unknownFilter (name : Text)
  | unknownTest (name : Text)
  /-- A name that is to be applied to each item is that of no filter. -/
  | filterMissing
  /-- A name that is to be asked of each item is that of no test. -/
  | testMissing
  /-- A call of something that is no method of a value. -/
  | unknownMethod (owner name : Text)
  | unknownBlock (name : Text)
  /-- A value without items for the targets. -/
  | notUnpackable
  /-- Fewer or more items than targets. -/
  | unpackLength (expected actual : Nat)
  /-- Another template where there is only one. -/
  | noTemplate (reason : Text)
  deriving DecidableEq, Repr

/-- The sign of an operation. -/
def Arithmetic.sign : Arithmetic → Text
  | .add => ['+']
  | .subtract => ['-']
  | .multiply => ['*']
  | .divide => ['/']
  | .floorDivide => ['/', '/']
  | .remainder => ['%']
  | .power => ['*', '*']

/-- The kind of failure that a problem is. -/
def Problem.category : Problem → Category
  | .undefinedValue => .undefinedError
  | .missingArgument => .missingArgument
  | .tooManyArguments | .argumentTwice _ | .unknownArgument _ => .tooManyArguments
  | .unknownFunction _ | .loopCalled => .unknownFunction
  | .unknownFilter _ | .filterMissing => .unknownFilter
  | _ => .invalidOperation

/-- The kind of a problem in words. -/
def Problem.title : Problem → Text
  | .unknownTest _ | .testMissing => "unknown test".toList
  | .unknownMethod _ _ => "unknown method".toList
  | .unknownBlock _ => "unknown block".toList
  | .notUnpackable | .unpackLength _ _ => "cannot unpack".toList
  | .noTemplate _ => "template not found".toList
  | problem => problem.category.message

/-- What there is to say about a problem beyond its kind. -/
def Problem.detail? : Problem → Option Text
  | .undefinedValue | .cannotNegate | .mapExpected | .missingArgument | .tooManyArguments
  | .filterMissing | .testMissing => none
  | .unsupportedTypes op left right =>
    some ("tried to use ".toList ++ op.sign ++ " operator on unsupported types ".toList
      ++ left.name ++ " and ".toList ++ right.name)
  | .cannotCalculate op left right =>
    some ("unable to calculate ".toList ++ left ++ ' ' :: op.sign ++ ' ' :: right)
  | .negationOverflow => some "overflow".toList
  | .textRepetition => some "strings can only be multiplied with integers".toList
  | .textTooLong => some "repeated string is too large".toList
  | .listRepetition => some "sequences and iterables can only be multiplied with integers".toList
  | .noContainment => some "cannot perform a containment check on this value".toList
  | .notIterable kind => some (kind.name ++ " is not iterable".toList)
  | .listExpected => some "not iterable".toList
  | .cannotConvert kind expected =>
    some ("cannot convert ".toList ++ kind.name ++ " to ".toList ++ expected)
  | .notCallable .sequence | .notCallable .map | .notCallable .iterator | .notCallable .object =>
    some "object is not callable".toList
  | .notCallable kind => some ("value of type ".toList ++ kind.name ++ " is not callable".toList)
  | .loopArguments => some "loop() takes one argument".toList
  | .loopInsideLoop => some "cannot recurse outside of recursive loop".toList
  | .loopOutsideLoop => some "cannot recurse outside of loop".toList
  | .loopCalled => some "loop cannot be called if reassigned to different variable".toList
  | .tooDeep => some "recursion limit exceeded".toList
  | .noLength kind => some ("cannot calculate length of value of type ".toList ++ kind.name)
  | .noFirst => some "cannot get first item from value".toList
  | .noLast => some "cannot get last item from value".toList
  | .cannotJoin kind => some ("cannot join value of type ".toList ++ kind.name)
  | .cannotList _ => some "cannot convert value to list".toList
  | .refused reason | .noTemplate reason => some reason
  | .argumentTwice name => some ("duplicate argument `".toList ++ name ++ "`".toList)
  | .unknownArgument name => some ("unknown keyword argument `".toList ++ name ++ "`".toList)
  | .unknownFunction name => some (name ++ " is unknown".toList)
  | .unknownFilter name => some ("filter ".toList ++ name ++ " is unknown".toList)
  | .unknownTest name => some ("test ".toList ++ name ++ " is unknown".toList)
  | .unknownMethod owner name => some (owner ++ " has no method named ".toList ++ name)
  | .unknownBlock name => some ("block '".toList ++ name ++ "' not found".toList)
  | .notUnpackable => some "value is not iterable".toList
  | .unpackLength expected actual =>
    some ("sequence of wrong length (expected ".toList ++ Text.ofNat expected ++
      ", got ".toList ++ Text.ofNat actual ++ [')'])

/-- A problem in words. -/
def Problem.message (problem : Problem) : Text :=
  match problem.detail? with
  | none => problem.title
  | some detail => problem.title ++ ": ".toList ++ detail

/-- What a problem was caused by in turn: that nothing can be joined or listed is found by a
loop. -/
def Problem.cause? : Problem → Option Problem
  | .cannotJoin kind | .cannotList kind => some (.notIterable kind)
  | _ => none

/-- Why a template could not be rendered. -/
inductive TemplateError where
  | unreadable (line : Nat)
  | failed (problem : Problem) (line : Nat)
  deriving DecidableEq, Repr

namespace TemplateError

/-- The kind of failure. -/
def category : TemplateError → Category
  | unreadable _ => .syntaxError
  | failed problem _ => problem.category

/-- The line on which it was found. -/
def line : TemplateError → Nat
  | unreadable line => line
  | failed _ line => line

/-- The name that messages give to the template. -/
def templateName : Text := "errors".toList

/-- The failure in words, without its place. -/
def summary : TemplateError → Text
  | unreadable _ => Category.syntaxError.message
  | failed problem _ => problem.message

/-- The failure in words. -/
def message (error : TemplateError) : Text :=
  error.summary ++ " (in ".toList ++ templateName ++ ':' :: Text.ofNat error.line ++ [')']

/-- The causes behind the failure, in words. -/
def causes : TemplateError → List Text
  | unreadable _ => []
  | failed problem _ => (problem.cause?.map (·.message)).toList

end TemplateError

end Codebook.Template
